import SpellOut.CharClass.Uppercase

/-! Names of types and packages.

A name is a simple name, or a name qualified by the name of its owner. Written out, its parts are
joined by dots. Any text at all is the text of exactly one name (`text_ofText`, `ofText_text`),
since a part may be empty but holds no dot. Which owners are packages and which are types the text
does not say; `ownerLooksLikeType` goes by the habit of writing types with a capital. -/
namespace SpellOut

/-- One part of a name. It may be empty, and it holds no dot. -/
structure Segment where
  text : String
  dotFree : '.' ∉ text.toList
deriving DecidableEq

namespace Segment

def empty : Segment := ⟨"", by simp⟩

/-- The segment with one more character at its end. -/
def push (s : Segment) (c : Char) (h : c ≠ '.') : Segment :=
  ⟨s.text.push c, by simpa [s.dotFree] using fun he => h he.symm⟩

end Segment

/-- A type or package name, qualified by its owner's name or standing alone. -/
inductive Name where
  | simple (last : Segment)
  | qualified (owner : Name) (last : Segment)
deriving DecidableEq

namespace Name

/-- The part after the last dot: the simple name. -/
def last : Name → Segment
  | simple last => last
  | qualified _ last => last

/-- What the simple name is qualified by, if it is. -/
def owner? : Name → Option Name
  | simple _ => none
  | qualified owner _ => some owner

def text : Name → String
  | simple last => last.text
  | qualified owner last => owner.text ++ "." ++ last.text

def segments : Name → List Segment
  | simple last => [last]
  | qualified owner last => owner.segments ++ [last]

/-! ### Reading a name -/

/-- Reads on after the segment `word`, which `close` makes the end of the name so far. -/
def scan (close : Segment → Name) (word : Segment) : List Char → Name
  | [] => close word
  | c :: rest =>
    if h : c = '.' then scan (qualified (close word)) Segment.empty rest
    else scan close (word.push c h) rest

/-- The name with a given text. -/
def ofText (text : String) : Name := scan simple Segment.empty text.toList

theorem toList_text_scan (close : Segment → Name) (lead : List Char)
    (hclose : ∀ word, (close word).text.toList = lead ++ word.text.toList) (word : Segment)
    (rest : List Char) :
    (scan close word rest).text.toList = lead ++ word.text.toList ++ rest := by
  induction rest generalizing close lead word with
  | nil => simp [scan, hclose]
  | cons c rest ih =>
    by_cases h : c = '.'
    · subst h
      rw [scan, dif_pos rfl, ih _ (lead ++ word.text.toList ++ ['.'])]
      · simp [Segment.empty]
      · intro next
        simp [text, hclose]
    · rw [scan, dif_neg h, ih _ lead hclose]
      simp [Segment.push]

/-- A name read from a text has that text. -/
@[simp]
theorem text_ofText (s : String) : (ofText s).text = s := by
  apply String.toList_inj.mp
  rw [ofText, toList_text_scan simple [] (fun _ => rfl)]
  simp [Segment.empty]

theorem scan_append_of_dotFree (close : Segment → Name) (word next : Segment) (more : List Char)
    (chars rest : List Char) (hchars : '.' ∉ chars)
    (hnext : next.text.toList = word.text.toList ++ chars) (hmore : more = chars ++ rest) :
    scan close word more = scan close next rest := by
  induction chars generalizing word more with
  | nil =>
    have : word = next := by
      obtain ⟨a, ha⟩ := word
      obtain ⟨b, hb⟩ := next
      have : a = b := String.toList_inj.mp (by simpa using hnext.symm)
      subst this
      rfl
    rw [this, hmore, List.nil_append]
  | cons c chars ih =>
    have hc : c ≠ '.' := fun he => hchars (he ▸ List.mem_cons_self)
    rw [hmore, List.cons_append, scan, dif_neg hc]
    exact ih _ _ (fun hm => hchars (List.mem_cons_of_mem _ hm))
      (by simpa [Segment.push] using hnext) rfl

theorem scan_text_append (n : Name) (rest : List Char) :
    ∃ close : Segment → Name, close n.last = n ∧
      scan simple Segment.empty (n.text.toList ++ rest) = scan close n.last rest := by
  induction n generalizing rest with
  | simple last =>
    exact ⟨simple, rfl, scan_append_of_dotFree simple _ _ _ last.text.toList rest last.dotFree
      (by simp [Segment.empty, Name.last]) rfl⟩
  | qualified owner last ih =>
    obtain ⟨close, hclose, hscan⟩ := ih ('.' :: last.text.toList ++ rest)
    refine ⟨qualified owner, rfl, ?_⟩
    have : (qualified owner last).text.toList ++ rest =
        owner.text.toList ++ ('.' :: last.text.toList ++ rest) := by
      simp [text]
    rw [this, hscan, List.cons_append, scan, dif_pos rfl, hclose]
    exact scan_append_of_dotFree _ _ _ _ last.text.toList rest last.dotFree
      (by simp [Segment.empty, Name.last]) rfl

/-- A name read from its own text is itself. -/
@[simp]
theorem ofText_text (n : Name) : ofText n.text = n := by
  obtain ⟨close, hclose, hscan⟩ := scan_text_append n []
  rw [List.append_nil] at hscan
  rw [ofText, hscan, scan, hclose]

theorem text_inj {m n : Name} : m.text = n.text ↔ m = n :=
  ⟨fun h => by rw [← ofText_text m, h, ofText_text], fun h => h ▸ rfl⟩

/-! ### What a name tells about itself -/

/-- Whether the name holds `$`, which compilers put between a nested type and its owner. -/
def isMarked (n : Name) : Bool := n.text.toList.contains '$'

/-- Whether the owner's simple name starts with a capital, as types do and packages do not. -/
def ownerLooksLikeType (n : Name) : Bool :=
  match n.owner? with
  | none => false
  | some owner => owner.last.text.toList.head?.any CharClass.isUppercase

/-- The longest proper owner of the name, direct or not, that satisfies `p`, with the text that is
left of the name below it. -/
def nearestOwner? (p : Name → Bool) : Name → Option (Name × String)
  | simple _ => none
  | qualified owner last =>
    if p owner then some (owner, last.text)
    else (nearestOwner? p owner).map fun (found, path) => (found, path ++ "." ++ last.text)

end Name

end SpellOut
