import SubtreePartition.FilePath
import SubtreePartition.FileTree.Basic
import SubtreePartition.Text.Quoted
import SubtreePartition.Text.Utf8

namespace SubtreePartition

structure Refusal where
  number : Nat
  words : Text
  deriving DecidableEq, Repr

def Refusal.message (r : Refusal) : Text :=
  Text.join ["[Errno ", Text.ofNat r.number, "] ", r.words]

inductive FileFault where
  | notFound
  | alreadyExists
  | notADirectory
  | isADirectory
  | nameTooLong
  | refused (refusal : Refusal)
  | nulCharacter
  | notEncodable
  deriving DecidableEq, Repr

namespace FileFault

def cause : FileFault → Refusal
  | .notFound => ⟨2, "No such file or directory"⟩
  | .alreadyExists => ⟨17, "File exists"⟩
  | .notADirectory => ⟨20, "Not a directory"⟩
  | .isADirectory => ⟨21, "Is a directory"⟩
  | .nameTooLong => ⟨36, "File name too long"⟩
  | .refused refusal => refusal
  | .nulCharacter => ⟨22, "embedded null byte"⟩
  | .notEncodable => ⟨22, "surrogates not allowed"⟩

/-- The system refuses to act; the other faults are found before it is asked. -/
def isSystem : FileFault → Bool
  | .nulCharacter | .notEncodable => false
  | _ => true

def message (fault : FileFault) (p : FilePath) : Text :=
  if fault.isSystem then Text.join [fault.cause.message, ": ", Text.quoted p.text]
  else fault.cause.words

end FileFault

namespace FileTree

def up : Text := ".."

def longestName : Nat := 255

def longestPath : Nat := 4095

def isTooLong (name : Text) : Bool :=
  longestName < (Utf8.encode name).length

def isEncodable (c : CodePoint) : Bool :=
  !Text.isSurrogate c || (0xDC80 ≤ c && c ≤ 0xDCFF)

def usableParts (p : FilePath) : Except FileFault (List Text) :=
  if !p.text.all isEncodable then .error .notEncodable
  else if p.text.contains 0 then .error .nulCharacter
  else if longestPath < (Utf8.encode p.text).length then .error .nameTooLong
  else .ok p.parts

def step (t : FileTree) (here : Location) (part : Text) : Except FileFault Location :=
  match t.find? here with
  | none => .error .notFound
  | some (.file _) => .error .notADirectory
  | some .directory =>
      if part = up then .ok here.dropLast
      else if isTooLong part then .error .nameTooLong
      else .ok (here ++ [part])

/-- Follows parts from a location. Only the last of them may name something that is not there. -/
def follow (t : FileTree) : Location → List Text → Except FileFault Location
  | here, [] => .ok here
  | here, part :: rest => do follow t (← t.step here part) rest

def origin (t : FileTree) (p : FilePath) : Location :=
  if p.isAbsolute then [] else t.current

def locate (t : FileTree) (p : FilePath) : Except FileFault Location := do
  t.follow (t.origin p) (← usableParts p)

def get (t : FileTree) (p : FilePath) : Except FileFault Node := do
  match t.find? (← t.locate p) with
  | some n => .ok n
  | none => .error .notFound

def read (t : FileTree) (p : FilePath) : Except FileFault Bytes := do
  match ← t.get p with
  | .file content => .ok content
  | .directory => .error .isADirectory

def openWriter (t : FileTree) (p : FilePath) : Except FileFault (Location × FileTree) := do
  let l ← t.locate p
  match t.find? l with
  | some .directory => .error .isADirectory
  | _ => .ok (l, t.put l (.file []))

def write (t : FileTree) (p : FilePath) (content : Bytes) : Except FileFault FileTree := do
  let l ← t.locate p
  match t.find? l with
  | some .directory => .error .isADirectory
  | _ => .ok (t.put l (.file content))

def remove (t : FileTree) (p : FilePath) : Except FileFault FileTree := do
  let l ← t.locate p
  match t.find? l with
  | none => .error .notFound
  | some .directory => .error .isADirectory
  | some (.file _) => .ok (t.erase l)

def directorySize : Nat := 4096

def size (t : FileTree) (p : FilePath) : Except FileFault Nat := do
  match ← t.get p with
  | .file content => .ok content.length
  | .directory => .ok directorySize

def makeDirectory (t : FileTree) (p : FilePath) : Except FileFault FileTree := do
  let l ← t.locate p
  match t.find? l with
  | some _ => .error .alreadyExists
  | none => .ok (t.put l .directory)

def isDirectory (t : FileTree) (p : FilePath) : Except FileFault Bool :=
  match t.get p with
  | .ok .directory => .ok true
  | .ok (.file _) => .ok false
  | .error .nameTooLong => .error .nameTooLong
  | .error _ => .ok false

def settle (t : FileTree) (p : FilePath) (fault : FileFault) : Except FileFault FileTree := do
  if fault.isSystem && (← t.isDirectory p) then .ok t else .error fault

def makeLast (t : FileTree) (p : FilePath) : FileTree × Option FileFault :=
  match t.makeDirectory p with
  | .ok t => (t, none)
  | .error fault =>
      match t.settle p fault with
      | .ok t => (t, none)
      | .error fault => (t, some fault)

/-- Makes a directory and those above it that are missing. What has been made before a fault
stays. -/
def makeDirectoriesWith (t : FileTree) (p : FilePath) : Nat → FileTree × Option FileFault
  | 0 => (t, some .notFound)
  | fuel + 1 =>
      match t.makeDirectory p with
      | .error .notFound =>
          if p.parts = [] then (t, some .notFound)
          else
            match makeDirectoriesWith t p.parent fuel with
            | (t, some fault) => (t, some fault)
            | (t, none) =>
                match t.makeDirectory p with
                | .error .notFound => (t, some .notFound)
                | _ => t.makeLast p
      | _ => t.makeLast p

def makeDirectories (t : FileTree) (p : FilePath) : FileTree × Option FileFault :=
  t.makeDirectoriesWith p (p.parts.length + 1)

end FileTree

end SubtreePartition
