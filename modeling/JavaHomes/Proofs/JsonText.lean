import JavaHomes.Json.Basic
import JavaHomes.Json.Reader

/-!
Strings come through their JSON text unchanged. The writer escapes every character on its own, and
the reader makes one piece of each; no piece is half of a pair, since only control characters are
written as numbers.
-/

namespace JavaHomes.Json

variable {α : Type} {a : α} {f : String → Option α} {s : String} {ending : Except Fault Unit}
  {c : Char} {n : Nat}

/-! ### Characters -/

/-- The piece as which a written character is read: a number when it took six characters. -/
def pieceOf (c : Char) : Piece :=
  if (escape c).length = 6 then .unit c.toNat else .char c

/-- The last two of the four digits are the number of a control character. -/
theorem hexDigits_control : ∀ n < 0x20,
    ['0', '0', hexDigit (n / 16), hexDigit n].all isHexDigit = true ∧
      Unicode.hexNumber (['0', '0', hexDigit (n / 16), hexDigit n].map Char.toUpper) = n := by
  decide

theorem pieces_plain (hquote : c ≠ '"') (hslash : c ≠ '\\') (hplain : ¬c.toNat < 0x20)
    (s : List Char) : pieces (c :: s) = (.char c :: (pieces s).1, (pieces s).2) := by
  rw [pieces, if_neg hplain]
  -- the patterns for the quotation mark and the backslash do not fit
  all_goals simp [hquote, hslash]

theorem pieces_escape (c : Char) (s : List Char) :
    pieces (escape c ++ s) = (pieceOf c :: (pieces s).1, (pieces s).2) := by
  rw [pieceOf]
  fun_cases escape c
  case case8 hcontrol _ _ _ _ _ _ _ =>
    obtain ⟨hdigits, hvalue⟩ := hexDigits_control c.toNat hcontrol
    simp only [hcontrol, ↓reduceIte, List.cons_append, List.nil_append, pieces, hdigits, hvalue,
      List.length_cons, List.length_nil]
  case case9 hplain hquote hslash _ _ _ _ _ =>
    rw [if_neg hplain, List.singleton_append, pieces_plain hquote hslash hplain]
    rfl
  -- the characters with an escape of one letter
  all_goals simp [pieces, shortEscape?]

/-- Only control characters are written as numbers. -/
theorem lt_of_length_escape (h : (escape c).length = 6) : c.toNat < 0x20 := by
  revert h
  fun_cases escape c
  case case8 hcontrol _ _ _ _ _ _ _ => exact fun _ => hcontrol
  case case9 hplain _ _ _ _ _ _ _ => simp [hplain]
  all_goals simp

theorem assemble_unit (hn : n < 0x20) (rest : List Piece) :
    assemble ending (.unit n :: rest) = (assemble ending rest).map (Char.ofNat n :: ·) := by
  have hleading : isLeading n = false := by simp [isLeading]; omega
  have htrailing : isTrailing n = false := by simp [isTrailing]; omega
  match rest with
  | [] | .char _ :: _ | .unit _ :: _ => simp [assemble, hleading, htrailing]

theorem assemble_pieceOf (c : Char) (rest : List Piece) :
    assemble ending (pieceOf c :: rest) = (assemble ending rest).map (c :: ·) := by
  rw [pieceOf]
  split
  · rename_i hlength
    rw [assemble_unit (lt_of_length_escape hlength), Char.ofNat_toNat]
  · rw [assemble]

/-! ### Strings -/

theorem pieces_flatMap_escape (s rest : List Char) :
    pieces (s.flatMap escape ++ '"' :: rest) = (s.map pieceOf, .ok rest) := by
  induction s with
  | nil => rw [List.flatMap_nil, List.nil_append, pieces, List.map_nil]
  | cons c s ih => rw [List.flatMap_cons, List.append_assoc, pieces_escape, ih, List.map_cons]

theorem assemble_map_pieceOf (s : List Char) : assemble (.ok ()) (s.map pieceOf) = .ok s := by
  induction s with
  | nil => rfl
  | cons c s ih =>
    rw [List.map_cons, assemble_pieceOf, ih]
    rfl

/-- Behind the opening quotation mark, a written string is read to its end. -/
theorem stringBody_flatMap_escape (s : String) (rest : List Char) :
    stringBody (s.toList.flatMap escape ++ '"' :: rest) = .ok (s, rest) := by
  rw [stringBody, pieces_flatMap_escape]
  simp only [Except.map, assemble_map_pieceOf, String.ofList_toList]

/-! ### Values -/

/-- A reader goes on where the one before it stopped. -/
theorem bind_of_ok {β : Type} {m : Reader α} {next : α → Reader β} {s rest : List Char}
    (h : m s = .ok (a, rest)) : (m >>= next) s = next a rest := by
  simp only [bind, StateT.bind, h, Except.bind]

theorem peek_cons (hc : isSpace c = false) (s : List Char) : peek (c :: s) = .ok (c, c :: s) := by
  have hpeek : peek? (c :: s) = .ok (some c, c :: s) := by simp [peek?, hc]
  rw [peek, bind_of_ok hpeek]
  rfl

theorem text_quote (s : String) (rest : List Char) : text (quote s ++ rest) = .ok (s, rest) := by
  have hquote : quote s ++ rest = '"' :: (s.toList.flatMap escape ++ '"' :: rest) := by
    simp [quote]
  have hdrop (s : List Char) : drop ('"' :: s) = .ok ((), s) := rfl
  rw [hquote, text, bind_of_ok (peek_cons rfl _), if_pos (beq_self_eq_true '"'),
    bind_of_ok (hdrop _),
    stringBody_flatMap_escape]

/-- A string that means something means the same behind its text. -/
theorem read_meaning_compact (h : f s = some a) :
    read (meaning f) (string s).compact = .ok a := by
  have htext : text (quote s) = .ok (s, []) := by
    rw [← text_quote s [], List.append_nil]
  have hmeaning : (meaning f).run (quote s) = .ok (a, []) := by
    rw [StateT.run, meaning, bind_of_ok htext, h]
    rfl
  have hcompact : (string s).compact.toList = quote s := String.toList_ofList
  rw [read, hcompact, hmeaning]
  rfl

end JavaHomes.Json
