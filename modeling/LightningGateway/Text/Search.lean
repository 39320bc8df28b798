/-!
# Searching and cutting texts

Substrings, the first cut at a separator, and replacement from left to right.
Everything is a plain recursion over the characters; the versions on `String`
only wrap it.
-/

namespace LightningGateway.Text

/-- Whether `needle` stands somewhere in the characters. -/
def occursIn (needle : List Char) : List Char → Bool
  | [] => needle.isEmpty
  | head :: rest => needle.isPrefixOf (head :: rest) || occursIn needle rest

/-- Whether `needle` is a substring of `text`. -/
def contains (text needle : String) : Bool :=
  occursIn needle.toList text.toList

/-- Whether `text` begins with `start`. -/
def beginsWith (text start : String) : Bool :=
  start.toList.isPrefixOf text.toList

/-- What stands before `ending` when the characters end with it. -/
def withoutEnding (ending characters : List Char) : Option (List Char) :=
  if ending.isSuffixOf characters then
    some (characters.take (characters.length - ending.length))
  else
    none

/-- The parts before and after the first occurrence of a separator. -/
def splitAtFirst (separator : List Char) : List Char → Option (List Char × List Char)
  | [] => if separator.isEmpty then some ([], []) else none
  | head :: rest =>
      if separator.isPrefixOf (head :: rest) then
        some ([], (head :: rest).drop separator.length)
      else
        (splitAtFirst separator rest).map fun (before, after) => (head :: before, after)

/-- The parts of a string before and after the first occurrence of a separator. -/
def splitOnce (text separator : String) : Option (String × String) :=
  (splitAtFirst separator.toList text.toList).map fun (before, after) =>
    (String.ofList before, String.ofList after)

/-- The parts between the occurrences of a mark. -/
def partsBetween (mark : Char) : List Char → List (List Char)
  | [] => [[]]
  | head :: rest =>
      if head == mark then [] :: partsBetween mark rest
      else
        match partsBetween mark rest with
        | [] => [[head]]
        | part :: others => (head :: part) :: others

/-- The parts of a string between the occurrences of a mark. -/
def parts (text : String) (mark : Char) : List String :=
  (partsBetween mark text.toList).map String.ofList

/-- The part of a string before the first occurrence of a character. -/
def upTo (text : String) (mark : Char) : String :=
  String.ofList (text.toList.takeWhile (· != mark))

/-- Replacement while `skip` characters of the last match are still to be passed. -/
def replaceFrom (needle substitute : List Char) : Nat → List Char → List Char
  | _, [] => []
  | skip + 1, _ :: rest => replaceFrom needle substitute skip rest
  | 0, head :: rest =>
      if needle.isPrefixOf (head :: rest) then
        substitute ++ replaceFrom needle substitute (needle.length - 1) rest
      else
        head :: replaceFrom needle substitute 0 rest

/-- Replaces every occurrence of a non-empty `needle`, from left to right. -/
def replaceAll (text needle substitute : String) : String :=
  String.ofList (replaceFrom needle.toList substitute.toList 0 text.toList)

def joinWith (separator : String) : List String → String
  | [] => ""
  | [last] => last
  | head :: rest => head ++ separator ++ joinWith separator rest

/-- Lower-case form of an ASCII letter; any other character is kept. -/
def lowerAscii (character : Char) : Char :=
  if 'A' ≤ character ∧ character ≤ 'Z' then Char.ofNat (character.toNat + 32) else character

def lowerAsciiText (text : String) : String :=
  String.ofList (text.toList.map lowerAscii)

/-- A substring is found exactly when the text has it between two other parts. -/
theorem occursIn_iff (needle characters : List Char) :
    occursIn needle characters = true ↔ ∃ before after, before ++ needle ++ after = characters := by
  induction characters with
  | nil =>
      constructor
      · intro found
        exact ⟨[], [], by simpa [occursIn] using found⟩
      · rintro ⟨before, after, equal⟩
        simp_all [occursIn]
  | cons head rest ih =>
      simp only [occursIn, Bool.or_eq_true, List.isPrefixOf_iff_prefix, ih]
      constructor
      · rintro (⟨after, equal⟩ | ⟨before, after, equal⟩)
        · exact ⟨[], after, by simpa using equal⟩
        · exact ⟨head :: before, after, by simp [← equal]⟩
      · rintro ⟨before, after, equal⟩
        cases before with
        | nil => exact Or.inl ⟨after, by simpa using equal⟩
        | cons first others =>
            refine Or.inr ⟨others, after, ?_⟩
            simp only [List.cons_append, List.cons.injEq] at equal
            exact equal.2

theorem contains_iff_infix (text needle : String) :
    contains text needle = true ↔ needle.toList <:+: text.toList :=
  occursIn_iff needle.toList text.toList

end LightningGateway.Text
