import SubtreePartition.Proofs.Datum.Schema
import SubtreePartition.Proofs.Yaml.Source

namespace SubtreePartition

open Datum Checked

variable {α : Type} {check : Members → Checked α} {P : List (Text × Datum) → α → Prop}

theorem acceptsFields_declaration :
    AcceptsFields Declaration.check (Declaration.Fits (L := .bundled)) := by
  intro members d
  have hs := acceptsFields_withDefault "supertypes" [] (accepts_listOf accepts_text) members
  have ha := acceptsFields_withDefault "auxiliary" false accepts_boolean members
  rw [Declaration.check, apply_eq_ok_iff]
  constructor
  · rintro ⟨_, auxiliary, hf, hb, rfl⟩
    obtain ⟨_, supertypes, ⟨⟩, ht, rfl⟩ := apply_eq_ok_iff.mp hf
    exact ⟨(hs _).mp ht, (ha _).mp hb⟩
  · rintro ⟨ht, hb⟩
    exact ⟨_, _, apply_eq_ok_iff.mpr ⟨_, _, rfl, (hs _).mpr ht, rfl⟩, (ha _).mpr hb, rfl⟩

theorem acceptsFields_declarations :
    AcceptsFields Declarations.check (Declarations.Fit (L := .bundled)) :=
  acceptsFields_withDefault _ _ (accepts_dictionaryOf (accepts_model acceptsFields_declaration))

theorem acceptsFields_indexDefinition :
    AcceptsFields IndexDefinition.check (IndexDefinition.Fits (L := .bundled)) := by
  intro members i
  have hp := acceptsFields_required "path" accepts_text members
  have ha := acceptsFields_withDefault "aggregates" []
    (accepts_dictionaryOf (accepts_listOf accepts_text)) members
  have hr := acceptsFields_withDefault "rules" []
    (accepts_listOf (accepts_model (acceptsFields_required "base_category" accepts_text))) members
  rw [IndexDefinition.check, apply_eq_ok_iff]
  constructor
  · rintro ⟨_, rules, hf, hrules, rfl⟩
    obtain ⟨_, aggregates, hmk, haggregates, rfl⟩ := apply_eq_ok_iff.mp hf
    obtain ⟨_, path, ⟨⟩, hpath, rfl⟩ := apply_eq_ok_iff.mp hmk
    exact ⟨(hp _).mp hpath, (ha _).mp haggregates, (hr _).mp hrules⟩
  · rintro ⟨hpath, haggregates, hrules⟩
    have hf := apply_eq_ok_iff.mpr ⟨IndexDefinition.mk, i.path, rfl, (hp _).mpr hpath, rfl⟩
    exact ⟨_, _, apply_eq_ok_iff.mpr ⟨_, _, hf, (ha _).mpr haggregates, rfl⟩, (hr _).mpr hrules, rfl⟩

theorem acceptsFields_indexDefinitions :
    AcceptsFields IndexDefinition.checkAll (IndexDefinition.FitAll (L := .bundled)) :=
  acceptsFields_withDefault _ _ (accepts_listOf (accepts_model acceptsFields_indexDefinition))

theorem Library.bundled_validates (name : Text) (h : AcceptsFields check P) :
    Library.bundled.Validates (fun fields => (check (membersOf fields)).mapError (.invalid name)) P
    where
  accepts {fields a} := by
    have hc : check (membersOf fields) = .ok a ↔ P fields a := by
      have hf := fieldsOf_membersOf fields
      exact (h _ a).trans (by rw [hf])
    rw [← hc]
    cases check (membersOf fields) <;> simp [Except.mapError]
  refuses {fields e} he := by
    cases hc : check (membersOf fields) with
    | ok a => rw [hc] at he; cases he
    | error issues =>
      rw [hc] at he
      cases he
      rfl

theorem Library.bundled_isDocumented : Library.bundled.IsDocumented where
  undecodable {content} hn hlen := by
    have hblock : content.length < Yaml.Source.blockSize + Yaml.Source.blockSize := hlen
    obtain ⟨defect, hd⟩ := Yaml.read_of_not_isText hn hblock documentDepth
    refine ⟨.notYaml (.notUtf8 defect), ?_, rfl⟩
    change (Yaml.read documentDepth (.ofOctets content)).mapError _ = _
    rw [hd]
    rfl
  hierarchy := bundled_validates _ acceptsFields_declarations
  indexes := bundled_validates _ acceptsFields_indexDefinitions

end SubtreePartition
