import SubtreePartition.Category.Load
import SubtreePartition.Proofs.Category.Bundled
import SubtreePartition.Proofs.FileTree.Making

namespace SubtreePartition

open FileTree

variable {α β : Type} {L : Library} {files : FileTree} {file : FilePath} {content : Bytes}
  {v : L.Value} {fields : L.Fields} {a : α} {check : L.Fields → Except L.Error α}
  {P : L.Fields → α → Prop}

namespace Library

inductive HasFields : L.Value → L.Fields → Prop where
  | none {v : L.Value} (hv : L.isVoid v = true) : HasFields v []
  | some {v : L.Value} {members : List (L.Value × L.Value)} {fields : L.Fields}
      (hv : L.isVoid v = false) (hm : L.members? v = some members)
      (hn : List.Forall₂ (fun m f => L.name? m.1 = some f.1 ∧ m.2 = f.2) members fields) :
      HasFields v fields

theorem named_of_forall₂ {members : List (L.Value × L.Value)}
    (h : List.Forall₂ (fun m f => L.name? m.1 = some f.1 ∧ m.2 = f.2) members fields) :
    (members.all fun m => (L.name? m.1).isSome) = true ∧ L.named members = fields := by
  induction h with
  | nil => exact ⟨rfl, rfl⟩
  | cons h _ ih =>
    obtain ⟨hname, hvalue⟩ := h
    obtain ⟨hall, hnamed⟩ := ih
    refine ⟨by rw [List.all_cons, hname, hall]; rfl, ?_⟩
    rw [named, List.filterMap_cons, hname, hvalue]
    exact congrArg _ hnamed

theorem forall₂_named {members : List (L.Value × L.Value)}
    (h : (members.all fun m => (L.name? m.1).isSome) = true) :
    List.Forall₂ (fun m f => L.name? m.1 = some f.1 ∧ m.2 = f.2) members (L.named members) := by
  induction members with
  | nil => exact .nil
  | cons m members ih =>
    rw [List.all_cons, Bool.and_eq_true] at h
    obtain ⟨hm, hall⟩ := h
    obtain ⟨t, ht⟩ := Option.isSome_iff_exists.mp hm
    rw [named, List.filterMap_cons, ht]
    exact .cons ⟨ht, rfl⟩ (ih hall)

theorem fields?_eq_some_iff : L.fields? v = some fields ↔ HasFields v fields := by
  constructor
  · intro h
    unfold fields? at h
    split at h
    next hv =>
      cases h
      exact .none hv
    next hv =>
      split at h
      next members hm =>
        split at h
        next hall =>
          cases h
          exact .some (Bool.eq_false_iff.mpr hv) hm (forall₂_named hall)
        next => cases h
      next => cases h
  · intro h
    cases h with
    | none hv => rw [fields?, if_pos hv]
    | some hv hm hn =>
      obtain ⟨hall, hnamed⟩ := named_of_forall₂ hn
      rw [fields?, if_neg (by rw [hv]; exact Bool.false_ne_true), hm]
      dsimp only
      rw [if_pos hall, hnamed]

theorem HasFields.unique {fields' : L.Fields} (h : HasFields v fields) (h' : HasFields v fields') :
    fields = fields' := by
  rw [← fields?_eq_some_iff] at h h'
  exact Option.some.inj (h.symm.trans h')

def Describes (P : L.Fields → α → Prop) (content : Bytes) (a : α) : Prop :=
  ∃ v fields, L.safeLoad content = .ok v ∧ HasFields v fields ∧ P fields a

def Misdescribes (P : L.Fields → α → Prop) (content : Bytes) : Prop :=
  (∃ e, L.safeLoad content = .error e ∧ (LoadFault.raised e).isConfiguration = true) ∨
    ∃ v, L.safeLoad content = .ok v ∧ ∀ fields a, HasFields v fields → ¬ P fields a

end Library

open Library

theorem ErrorKind.isConfiguration_iff {k : ErrorKind} :
    k.isConfiguration = true ↔ k ∈ [ErrorKind.system, .document, .validation, .mismatch] := by
  cases k <;> decide

theorem LoadFault.isConfiguration_raised_iff {e : L.Error} :
    (raised e).isConfiguration = true ↔
      L.kind e ∈ [ErrorKind.system, .document, .validation, .mismatch] :=
  ErrorKind.isConfiguration_iff

theorem LoadFault.isConfiguration_unreadable {fault : FileFault} :
    (unreadable fault : LoadFault L).isConfiguration = fault.isSystem := by
  cases h : fault.isSystem <;> simp [isConfiguration, errorKind, FileFault.errorKind, h] <;> rfl

def documentOf (check : L.Fields → Except L.Error α) (content : Bytes) : Except (LoadFault L) α := do
  let v ← (L.safeLoad content).mapError .raised
  checkFields L check v

inductive Found (P : L.Fields → α → Prop) (content : Bytes) : Except (LoadFault L) α → Prop where
  | raised {e : L.Error} (hv : L.safeLoad content = .error e) : Found P content (.error (.raised e))
  | unfit {v : L.Value} {fault : LoadFault L} (hv : L.safeLoad content = .ok v)
      (hn : ∀ fields a, HasFields v fields → ¬ P fields a) (hf : fault.isConfiguration = true) :
      Found P content (.error fault)
  | fit {v : L.Value} {fields : L.Fields} {a : α} (hv : L.safeLoad content = .ok v)
      (hm : HasFields v fields) (ha : P fields a) : Found P content (.ok a)

theorem found_documentOf (hc : L.Validates check P) (content : Bytes) :
    Found P content (documentOf check content) := by
  unfold documentOf
  cases hv : L.safeLoad content with
  | error e => exact .raised hv
  | ok v =>
    change Found P content (checkFields L check v)
    unfold checkFields
    split
    next hm =>
      refine .unfit hv (fun fields a hfields => ?_) rfl
      rw [fields?_eq_some_iff.mpr hfields] at hm
      cases hm
    next fields hm =>
      have hfields := fields?_eq_some_iff.mp hm
      cases ha : check fields with
      | error e =>
        have hkind : (LoadFault.raised e).isConfiguration = true := by
          rw [LoadFault.isConfiguration_raised_iff, hc.refuses ha]
          decide
        refine .unfit hv (fun fields' a hfields' hP => ?_) hkind
        rw [← hfields.unique hfields', ← hc.accepts, ha] at hP
        cases hP
      | ok a => exact .fit hv hfields (hc.accepts.mp ha)

theorem documentOf_eq_ok_iff (hc : L.Validates check P) :
    documentOf check content = .ok a ↔ Describes P content a := by
  constructor
  · intro h
    have hfound := found_documentOf hc content
    rw [h] at hfound
    cases hfound with
    | fit hv hm ha => exact ⟨_, _, hv, hm, ha⟩
  · rintro ⟨v, fields, hv, hm, ha⟩
    unfold documentOf
    rw [hv]
    change checkFields L check v = _
    rw [checkFields, fields?_eq_some_iff.mpr hm]
    change (check fields).mapError _ = _
    rw [hc.accepts.mpr ha]
    rfl

theorem documentOf_isConfiguration_iff (hc : L.Validates check P) :
    (∃ fault, documentOf check content = .error fault ∧ fault.isConfiguration = true) ↔
      Misdescribes P content := by
  have hfound := found_documentOf hc content
  generalize documentOf check content = x at hfound
  constructor
  · rintro ⟨fault, rfl, hf⟩
    cases hfound with
    | raised hv => exact .inl ⟨_, hv, hf⟩
    | unfit hv hn => exact .inr ⟨_, hv, hn⟩
  · intro hmis
    cases hfound with
    | raised hv =>
      rcases hmis with ⟨e, hv', hf⟩ | ⟨v, hv', -⟩
      · cases hv.symm.trans hv'
        exact ⟨_, rfl, hf⟩
      · cases hv.symm.trans hv'
    | unfit _ _ hf => exact ⟨_, rfl, hf⟩
    | fit hv hm ha =>
      rcases hmis with ⟨e, hv', -⟩ | ⟨v, hv', hn⟩
      · cases hv.symm.trans hv'
      · cases hv.symm.trans hv'
        exact absurd ha (hn _ _ hm)

/-- What leaves a loader as it is: a path that the system cannot be told, and what is raised in
reading the octets but not looked for. -/
inductive Leaks (files : FileTree) (file : FilePath) : LoadFault L → Prop where
  | path {fault : FileFault} (hp : ¬ IsExpressible file) : Leaks files file (.unreadable fault)
  | content {content : Bytes} {e : L.Error} (hr : files.read file = .ok content)
      (he : L.safeLoad content = .error e) : Leaks files file (.raised e)

theorem leaks_of_documentOf {fault : LoadFault L} (hc : L.Validates check P)
    (hr : files.read file = .ok content) (h : documentOf check content = .error fault) :
    fault.isConfiguration = true ∨ Leaks files file fault := by
  have hfound := found_documentOf hc content
  rw [h] at hfound
  cases hfound with
  | raised hv => exact .inr (.content hr hv)
  | unfit _ _ hf => exact .inl hf

theorem documentOf_refuses_iff (hc : L.Validates check P) :
    (∀ fault, documentOf check content = .error fault → fault.isConfiguration = true) ↔
      ∀ e, L.safeLoad content = .error e → (LoadFault.raised e).isConfiguration = true := by
  have hfound := found_documentOf hc content
  generalize documentOf check content = x at hfound
  cases hfound with
  | raised hv =>
    constructor
    · intro h e hv'
      cases hv.symm.trans hv'
      exact h _ rfl
    · rintro h _ ⟨⟩
      exact h _ hv
  | unfit hv _ hf =>
    refine iff_of_true (fun fault he => Except.error.inj he ▸ hf) fun e hv' => ?_
    cases hv.symm.trans hv'
  | fit hv =>
    refine iff_of_true nofun fun e hv' => ?_
    cases hv.symm.trans hv'

def report (kind : DocumentKind) (file : FilePath) (result : α → β) (x : Except (LoadFault L) α) :
    Except (LoadFailure L) β :=
  (x.mapError (⟨kind, file, ·⟩)).map result

variable {kind : DocumentKind} {result : α → β} {x : Except (LoadFault L) α}

theorem report_eq_ok_iff {b : β} :
    report kind file result x = .ok b ↔ ∃ a, x = .ok a ∧ b = result a := by
  cases x <;> simp [report, Except.mapError, Except.map, eq_comm]

theorem report_eq_error_iff {f : LoadFailure L} :
    report kind file result x = .error f ↔ ∃ fault, x = .error fault ∧ f = ⟨kind, file, fault⟩ := by
  cases x <;> simp [report, Except.mapError, Except.map, eq_comm]

def Settles (x : Except (LoadFailure L) β) : Prop :=
  (∃ b, x = .ok b) ∨ ∃ f, x = .error f ∧ f.fault.isConfiguration = true

theorem settles_error_iff {f : LoadFailure L} :
    Settles (.error f : Except (LoadFailure L) β) ↔ f.fault.isConfiguration = true := by
  constructor
  · rintro (⟨b, hb⟩ | ⟨f', hf', hc⟩)
    · cases hb
    · cases hf'
      exact hc
  · exact fun hc => .inr ⟨f, rfl, hc⟩

instance (x : Except (LoadFailure L) β) : Decidable (Settles x) :=
  match x with
  | .ok b => isTrue (.inl ⟨b, rfl⟩)
  | .error _ => decidable_of_iff _ settles_error_iff.symm

theorem settles_report_iff :
    Settles (report kind file result x) ↔
      ∀ fault, x = .error fault → fault.isConfiguration = true := by
  cases x with
  | ok a => exact iff_of_true (.inl ⟨_, rfl⟩) nofun
  | error fault =>
    refine settles_error_iff.trans ⟨fun h fault' he => ?_, fun h => h _ rfl⟩
    cases he
    exact h

/-- What may come of loading a value from a file, and what each end of it says about the file. -/
structure Accounts (kind : DocumentKind) (P : L.Fields → α → Prop) (result : α → β)
    (files : FileTree) (file : FilePath) (x : Except (LoadFailure L) β) : Prop where
  loaded (b : β) : x = .ok b ↔
    ∃ content a, files.read file = .ok content ∧ Describes P content a ∧ b = result a
  refused : (∃ f, x = .error f ∧ f.fault.isConfiguration = true) ↔
    (∃ fault, files.read file = .error fault ∧ IsExpressible file) ∨
      ∃ content, files.read file = .ok content ∧ Misdescribes P content
  failed (f : LoadFailure L) : x = .error f → f.kind = kind ∧ f.file = file ∧
    (f.fault.isConfiguration = true ∨ Leaks files file f.fault)
  settled : Settles x ↔ IsExpressible file ∧ ∀ content e, files.read file = .ok content →
    L.safeLoad content = .error e →
      L.kind e ∈ [ErrorKind.system, .document, .validation, .mismatch]
  undecodable (content : Bytes) : files.read file = .ok content → ¬ Utf8.IsText content →
    content.length < firstChunk →
      ∃ e, L.kind e = .value ∧ x = .error ⟨kind, file, .raised e⟩

theorem accounts_unreadable {fault : FileFault} (hr : files.read file = .error fault) :
    Accounts kind P result files file (.error ⟨kind, file, .unreadable fault⟩) where
  loaded b := by
    refine ⟨nofun, ?_⟩
    rintro ⟨content, a, hr', -⟩
    cases hr.symm.trans hr'
  refused := by
    constructor
    · rintro ⟨_, ⟨⟩, hf⟩
      rw [LoadFault.isConfiguration_unreadable] at hf
      exact .inl ⟨fault, hr, (read_error_isSystem hr).mp hf⟩
    · rintro (⟨_, -, hp⟩ | ⟨content, hr', -⟩)
      · refine ⟨_, rfl, ?_⟩
        rw [LoadFault.isConfiguration_unreadable]
        exact (read_error_isSystem hr).mpr hp
      · cases hr.symm.trans hr'
  failed := by
    rintro _ ⟨⟩
    refine ⟨rfl, rfl, ?_⟩
    rw [LoadFault.isConfiguration_unreadable]
    by_cases hp : IsExpressible file
    · exact .inl ((read_error_isSystem hr).mpr hp)
    · exact .inr (.path hp)
  settled := by
    rw [settles_error_iff, LoadFault.isConfiguration_unreadable]
    refine (read_error_isSystem hr).trans ⟨fun hp => ⟨hp, fun content e hr' => ?_⟩, And.left⟩
    cases hr.symm.trans hr'
  undecodable content hr' := by cases hr.symm.trans hr'

theorem accounts_content (hL : L.IsDocumented) (hc : L.Validates check P)
    (hr : files.read file = .ok content) :
    Accounts kind P result files file (report kind file result (documentOf check content)) where
  loaded b := by
    simp only [report_eq_ok_iff, documentOf_eq_ok_iff hc]
    constructor
    · rintro ⟨a, ha, rfl⟩
      exact ⟨content, a, hr, ha, rfl⟩
    · rintro ⟨content', a, hr', ha, rfl⟩
      cases hr.symm.trans hr'
      exact ⟨a, ha, rfl⟩
  refused := by
    constructor
    · rintro ⟨f, hreport, hf⟩
      obtain ⟨fault, he, rfl⟩ := report_eq_error_iff.mp hreport
      exact .inr ⟨content, hr, (documentOf_isConfiguration_iff hc).mp ⟨fault, he, hf⟩⟩
    · rintro (⟨fault, hr', -⟩ | ⟨content', hr', hmis⟩)
      · cases hr.symm.trans hr'
      · cases hr.symm.trans hr'
        obtain ⟨fault, he, hf⟩ := (documentOf_isConfiguration_iff hc).mpr hmis
        exact ⟨_, report_eq_error_iff.mpr ⟨fault, he, rfl⟩, hf⟩
  failed f hreport := by
    obtain ⟨fault, he, rfl⟩ := report_eq_error_iff.mp hreport
    exact ⟨rfl, rfl, leaks_of_documentOf hc hr he⟩
  settled := by
    simp only [settles_report_iff, documentOf_refuses_iff hc, LoadFault.isConfiguration_raised_iff]
    constructor
    · intro h
      refine ⟨isExpressible_of_read hr, fun content' e hr' => ?_⟩
      cases hr.symm.trans hr'
      exact h e
    · rintro ⟨-, h⟩ e
      exact h content e hr
  undecodable content' hr' hn hlen := by
    cases hr.symm.trans hr'
    obtain ⟨e, he, hk⟩ := hL.undecodable hn hlen
    refine ⟨e, hk, report_eq_error_iff.mpr ⟨_, ?_, rfl⟩⟩
    unfold documentOf
    rw [he]
    rfl

theorem accounts_report (hL : L.IsDocumented) (hc : L.Validates check P) (kind : DocumentKind)
    (result : α → β) (files : FileTree) (file : FilePath) :
    Accounts kind P result files file
      (report kind file result (readDocument L check files file)) := by
  unfold readDocument
  cases hr : files.read file with
  | error fault => exact accounts_unreadable hr
  | ok content => exact accounts_content hL hc hr

theorem Hierarchy.load_eq (L : Library) (files : FileTree) (file : FilePath) :
    load L files file = report .hierarchy file
      (fun ds => (ofDeclarations ds, .hierarchyLoaded ds.length file :: ds.reports))
      (readDocument L L.hierarchy files file) := by
  unfold load
  cases readDocument L L.hierarchy files file <;> rfl

theorem IndexDefinition.load_eq (L : Library) (files : FileTree) (file : FilePath) :
    load L files file = report .indexes file
      (fun definitions => (definitions, [.indexesLoaded definitions.length file]))
      (readDocument L L.indexes files file) := by
  unfold load
  cases readDocument L L.indexes files file <;> rfl

/-- A value is loaded from just the documents that the declared fields describe. All else is a
failure of the configuration, unless the path cannot be told to the system or reading the octets
raises what the loaders do not look for. -/
theorem loaders_account (hL : L.IsDocumented) (files : FileTree) (file : FilePath) :
    Accounts .hierarchy Declarations.Fit
        (fun ds => (Hierarchy.ofDeclarations ds, .hierarchyLoaded ds.length file :: ds.reports))
        files file (Hierarchy.load L files file) ∧
      Accounts .indexes IndexDefinition.FitAll
        (fun definitions => (definitions, [.indexesLoaded definitions.length file]))
        files file (IndexDefinition.load L files file) := by
  rw [Hierarchy.load_eq, IndexDefinition.load_eq]
  exact ⟨accounts_report hL hL.hierarchy _ _ _ _, accounts_report hL hL.indexes _ _ _ _⟩

section Undecodable

def undecodable : FileTree := { nodes := [(["h"], .file [0xFF])] }

theorem not_isText_undecodable : ¬ Utf8.IsText [0xFF] := by
  rintro ⟨t, ht, he⟩
  cases Utf8.decodeStrict_eq_ok_iff.mpr ⟨ht, he⟩

theorem loaders_account_undecodable :
    Library.bundled.IsDocumented ∧ ∃ e, Library.bundled.kind e = .value ∧
      Hierarchy.load .bundled undecodable (.parse "/h") =
        .error ⟨.hierarchy, .parse "/h", .raised e⟩ :=
  have h := loaders_account Library.bundled_isDocumented undecodable (.parse "/h")
  ⟨Library.bundled_isDocumented,
    h.1.undecodable [0xFF] (by decide) not_isText_undecodable (by decide)⟩

theorem not_settles_undecodable : ¬ Settles (Hierarchy.load .bundled undecodable (.parse "/h")) := by
  decide +kernel

end Undecodable

end SubtreePartition
