/-!
# Splitting text

Keys join their parts with a separator character. `splitOnce` cuts at the first separator,
`pieces` at every one.
-/
namespace DashAgent.Text

/-- The parts before and after the first `sep`, or `none` where there is no `sep`. -/
def splitOnce (sep : Char) : List Char → Option (List Char × List Char)
  | [] => none
  | c :: text =>
    if c = sep then some ([], text)
    else (splitOnce sep text).map fun (before, after) => (c :: before, after)

/-- The parts between separators; there is one part more than there are separators. -/
def pieces (isSep : Char → Bool) : List Char → List (List Char)
  | [] => [[]]
  | c :: text =>
    if isSep c then [] :: pieces isSep text
    else match pieces isSep text with
      | [] => [[c]]
      | piece :: rest => (c :: piece) :: rest

/-- What stands in front of `suffix`, where the text ends in it. -/
def dropSuffix? (suffix text : List Char) : Option (List Char) :=
  if suffix.isSuffixOf text then some (text.take (text.length - suffix.length)) else none

/-- Lower case of the ASCII letters. A comparison with a word without the letter `k` finds the
same texts as full lower-casing: no other character has an ASCII letter as its lower case. -/
def lowered (text : String) : String := String.ofList (text.toList.map Char.toLower)

def raised (text : String) : String := String.ofList (text.toList.map Char.toUpper)

/-- A cut at the first separator loses nothing and leaves none in the first part. -/
theorem splitOnce_eq_some_iff {sep : Char} {text before after : List Char} :
    splitOnce sep text = some (before, after) ↔
      text = before ++ sep :: after ∧ sep ∉ before := by
  induction text generalizing before after with
  | nil => simp [splitOnce]
  | cons c text ih =>
    by_cases h : c = sep
    · subst h
      cases before <;> simp +contextual [splitOnce, eq_comm]
    · cases before with
      | nil => simp [splitOnce, h]
      | cons b before =>
        simp only [splitOnce, h, ↓reduceIte, Option.map_eq_some_iff, Prod.exists, Prod.mk.injEq,
          List.cons.injEq, List.cons_append, List.mem_cons, not_or]
        constructor
        · rintro ⟨x, y, hxy, ⟨rfl, rfl⟩, rfl⟩
          obtain ⟨rfl, hn⟩ := ih.1 hxy
          exact ⟨⟨rfl, rfl⟩, fun e => h e.symm, hn⟩
        · rintro ⟨⟨rfl, rfl⟩, -, hn⟩
          exact ⟨before, after, ih.2 ⟨rfl, hn⟩, ⟨rfl, rfl⟩, rfl⟩

end DashAgent.Text
