import Velkir.GoText

/-!
# Valkey image versions

The version-compatibility rules compare the major and minor numbers read off an image reference.
-/

namespace Velkir

/-- The parsed major and minor number of a Valkey image tag. -/
structure ValkeyVersion where
  major : Int
  minor : Int
  deriving DecidableEq

/-- The component of a tag that a parse failure names. -/
inductive TagPart
  | shape
  | major
  | minor
  | patch
  deriving DecidableEq

/-- Why an image reference has no version. -/
inductive TagError
  | noTag
  | malformedTag (part : TagPart) (text : List Char)
  deriving DecidableEq

/-- An integer component, not negative if `bounded`. -/
def tagNumber (part : TagPart) (bounded : Bool) (text : List Char) : Except TagError Int :=
  match GoText.atoi text with
  | some n => if bounded ∧ n < 0 then .error (.malformedTag part text) else .ok n
  | none => .error (.malformedTag part text)

/-- Read `major.minor` off a tag, less digest and variant suffix. -/
def parseValkeyTag (ref : String) : Except TagError ValkeyVersion := do
  let ref := ref.toList.takeWhile (· ≠ '@')
  match GoText.cutLast ':' ref with
  | none => .error .noTag
  | some (_, tag) =>
      if '/' ∈ tag then .error .noTag
      else
        let tag := tag.takeWhile (· ≠ '-')
        match tag.splitOn '.' with
        | majorText :: minorText :: rest =>
            let major ← tagNumber .major true majorText
            let minor ← tagNumber .minor true minorText
            match rest with
            | patchText :: _ =>
                let _ ← tagNumber .patch false patchText
                return { major, minor }
            | [] => return { major, minor }
        | _ => .error (.malformedTag .shape tag)

/-- The target's major is below the source's. -/
def isDowngrade (source target : ValkeyVersion) : Bool :=
  target.major < source.major

/-- The minor jumps by more than one. -/
def isSkipMinor (source target : ValkeyVersion) : Bool :=
  target.major = source.major ∧ 1 < target.minor - source.minor

end Velkir
