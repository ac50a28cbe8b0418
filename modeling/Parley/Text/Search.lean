namespace Parley.Text

def containsList (pattern : List Char) : List Char → Bool
  | [] => pattern.isEmpty
  | c :: rest => pattern.isPrefixOf (c :: rest) || containsList pattern rest

/-- The list with every occurrence of the pattern, left to right and without overlap, replaced. The first
argument counts the characters of an occurrence that are still to be passed over. -/
def replaceFrom (pattern replacement : List Char) : Nat → List Char → List Char
  | _, [] => []
  | skip + 1, _ :: rest => replaceFrom pattern replacement skip rest
  | 0, c :: rest =>
      if pattern.isPrefixOf (c :: rest) then
        replacement ++ replaceFrom pattern replacement (pattern.length - 1) rest
      else c :: replaceFrom pattern replacement 0 rest

def replaceList (pattern replacement cs : List Char) : List Char := replaceFrom pattern replacement 0 cs

def replace (pattern replacement text : String) : String :=
  String.ofList (replaceList pattern.toList replacement.toList text.toList)

def afterList? : List Char → List Char → Option (List Char)
  | [], cs => some cs
  | _ :: _, [] => none
  | p :: pattern, c :: rest => if p = c then afterList? pattern rest else none

def cutList? (separator : Char) : List Char → Option (List Char × List Char)
  | [] => none
  | c :: rest =>
      if c = separator then some ([], rest)
      else (cutList? separator rest).map fun sides => (c :: sides.1, sides.2)

/-- The lower-case form of a character where that form is an ASCII letter, as it is for the ASCII capitals and
the Kelvin sign; any other character stands for itself. -/
def lowerAscii (c : Char) : Char := if c = '\u212A' then 'k' else c.toLower

/-- The text in lower case, as far as comparing it with an ASCII word can tell. -/
def lower (text : String) : String := String.ofList (text.toList.map lowerAscii)

theorem afterList?_append (pattern rest : List Char) : afterList? pattern (pattern ++ rest) = some rest := by
  induction pattern with
  | nil => rfl
  | cons p pattern ih => simp [afterList?, ih]

theorem eq_append_of_afterList? {pattern cs rest : List Char} (found : afterList? pattern cs = some rest) :
    cs = pattern ++ rest := by
  induction pattern generalizing cs with
  | nil => exact Option.some.inj found
  | cons p pattern ih =>
    cases cs with
    | nil => cases found
    | cons c cs =>
      simp only [afterList?] at found
      split at found
      next same => rw [same, ih found, List.cons_append]
      next => cases found

theorem eq_append_of_cutList? {separator : Char} {cs left right : List Char}
    (h : cutList? separator cs = some (left, right)) : cs = left ++ separator :: right := by
  induction cs generalizing left with
  | nil => simp [cutList?] at h
  | cons c rest ih =>
    simp only [cutList?] at h
    split at h
    · next same => simp_all
    · obtain ⟨⟨before, after⟩, found, same⟩ := Option.map_eq_some_iff.1 h
      obtain ⟨rfl, rfl⟩ := Prod.mk.inj same
      simp [ih found]

end Parley.Text
