import RuleVerify.Text.Blank

namespace RuleVerify.Text

/-- `needle` stands somewhere in the text. -/
def occursIn (needle : List Char) : List Char → Bool
  | [] => needle.isEmpty
  | c :: cs => needle.isPrefixOf (c :: cs) || occursIn needle cs

/-- The text before the first occurrence of `needle`, and the text behind it. -/
def cutAt? (needle : List Char) : List Char → Option (List Char × List Char)
  | [] => if needle.isEmpty then some ([], []) else none
  | c :: cs =>
    if needle.isPrefixOf (c :: cs) then some ([], (c :: cs).drop needle.length)
    else (cutAt? needle cs).map fun (before, rest) => (c :: before, rest)

/-- What a cut finds is put together to the text again. -/
theorem eq_of_cutAt? {needle cs before rest : List Char}
    (hcut : cutAt? needle cs = some (before, rest)) : cs = before ++ needle ++ rest := by
  induction cs generalizing before with
  | nil =>
    simp only [cutAt?] at hcut
    split at hcut <;> simp_all
  | cons c cs ih =>
    simp only [cutAt?] at hcut
    split at hcut
    · rename_i hprefix
      obtain ⟨tail, htail⟩ := List.isPrefixOf_iff_prefix.mp hprefix
      simp only [Option.some.injEq, Prod.mk.injEq] at hcut
      obtain ⟨rfl, rfl⟩ := hcut
      simp [← htail]
    · simp only [Option.map_eq_some_iff, Prod.mk.injEq] at hcut
      obtain ⟨⟨before', rest'⟩, hsome, rfl, rfl⟩ := hcut
      simp [ih hsome]

/-- The pieces between the occurrences of a non-empty delimiter, found from the left without
    overlap. The count says how many characters of an occurrence are still to be passed. -/
def splitPassing (delimiter : List Char) : Nat → List Char → List (List Char)
  | _, [] => [[]]
  | passing + 1, _ :: cs => splitPassing delimiter passing cs
  | 0, c :: cs =>
    if delimiter.isPrefixOf (c :: cs) then
      [] :: splitPassing delimiter (delimiter.length - 1) cs
    else (splitPassing delimiter 0 cs).modifyHead (c :: ·)

/-- The pieces of a text between the occurrences of a delimiter. The empty delimiter stands
    before, between and after all characters. -/
def splitOn (delimiter cs : List Char) : List (List Char) :=
  if delimiter.isEmpty then [] :: (cs.map ([·]) ++ [[]]) else splitPassing delimiter 0 cs

/-- The text without `ending` at its end, once. -/
def dropSuffix? (ending cs : List Char) : Option (List Char) :=
  if ending.isSuffixOf cs then some (cs.take (cs.length - ending.length)) else none

end RuleVerify.Text
