/-! # White space and pieces of a text

Two notions of white space are in use. Cell lines and written entries are divided by any
character with the White_Space property; the layout of a document collapses only the five
ASCII ones. Texts are taken apart as lists of characters.
-/
namespace CycleTable.Text

/-- The characters with the White_Space property of the character database. -/
def isWhite (c : Char) : Bool :=
  let n := c.toNat
  (0x09 ≤ n && n ≤ 0x0d) || n == 0x20 || n == 0x85 || n == 0xa0 || n == 0x1680 ||
    (0x2000 ≤ n && n ≤ 0x200a) || n == 0x2028 || n == 0x2029 || n == 0x202f ||
    n == 0x205f || n == 0x3000

/-- The white space of a document: tab, line feed, form feed, carriage return and space. -/
def isAsciiWhite (c : Char) : Bool :=
  c == ' ' || c == '\t' || c == '\n' || c == '\x0c' || c == '\r'

def trimStart (cs : List Char) : List Char := cs.dropWhile isWhite

def trimEnd (cs : List Char) : List Char := (cs.reverse.dropWhile isWhite).reverse

def trim (cs : List Char) : List Char := trimEnd (trimStart cs)

/-- The maximal runs of characters that are not white space, in order. -/
def words : List Char → List (List Char)
  | [] => []
  | c :: cs =>
    if isWhite c then words cs
    else (c :: cs.takeWhile fun d => !isWhite d) :: words (cs.dropWhile fun d => !isWhite d)
termination_by cs => cs.length
decreasing_by
  · simp
  · exact Nat.lt_succ_of_le (List.dropWhile_suffix _).length_le

theorem words_nil : words [] = [] := by
  rw [words.eq_def]

theorem words_cons (c : Char) (cs : List Char) : words (c :: cs) =
    if isWhite c then words cs
    else (c :: cs.takeWhile fun d => !isWhite d) :: words (cs.dropWhile fun d => !isWhite d) := by
  rw [words.eq_def]

/-- The text in front of the first `c`, or all of it when there is none. -/
def before (c : Char) (cs : List Char) : List Char := cs.takeWhile (· != c)

def after? (c : Char) (cs : List Char) : Option (List Char) := (cs.dropWhile (· != c)).tail?

def byteCount (cs : List Char) : Nat := cs.foldr (fun c n => c.utf8Size + n) 0

def drop? : List Char → List Char → Option (List Char)
  | [], cs => some cs
  | _ :: _, [] => none
  | e :: es, c :: cs => if e = c then drop? es cs else none

theorem drop?_eq_some {es cs rest : List Char} :
    drop? es cs = some rest ↔ cs = es ++ rest := by
  induction es generalizing cs with
  | nil => simp [drop?]
  | cons e es ih =>
    cases cs with
    | nil => simp [drop?]
    | cons c cs =>
      by_cases h : e = c
      · simp [drop?, h, ih]
      · simp [drop?, h]
        intro h'
        exact absurd h'.symm h

theorem span_append {p : Char → Bool} {run rest : List Char} (hrun : ∀ c ∈ run, p c)
    (hrest : ∀ c ∈ rest.head?, p c = false) :
    (run ++ rest).takeWhile p = run ∧ (run ++ rest).dropWhile p = rest := by
  have hnil : rest.takeWhile p = [] ∧ rest.dropWhile p = rest := by
    cases rest with
    | nil => simp
    | cons c rest => simp [hrest c rfl]
  rw [List.takeWhile_append_of_pos hrun, List.dropWhile_append_of_pos hrun, hnil.1, hnil.2,
    List.append_nil]
  exact ⟨rfl, rfl⟩

theorem trimStart_eq_self {cs : List Char} (h : ∀ c ∈ cs.head?, isWhite c = false) :
    trimStart cs = cs :=
  (span_append (List.forall_mem_nil _) h).2

theorem trim_eq_self {cs : List Char} (hfirst : ∀ c ∈ cs.head?, isWhite c = false)
    (hlast : ∀ c ∈ cs.getLast?, isWhite c = false) : trim cs = cs := by
  rw [← List.head?_reverse] at hlast
  have hend : cs.reverse.dropWhile isWhite = cs.reverse := trimStart_eq_self hlast
  rw [trim, trimStart_eq_self hfirst, trimEnd, hend, List.reverse_reverse]

end CycleTable.Text
