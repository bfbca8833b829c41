import Mathlib.Data.List.TakeWhile
import Accessors.Proofs.PieceForms

/-!
Reading a piece by cutting it. Texts are cut at byte offsets, and a cut that does not fall between two
characters of its text fails. As long as what is left of a piece starts with an opening bracket, the
offsets of brackets are such cuts, and every turn of the loop makes the text shorter. So reading a piece
ends with the segment or with a refusal, and never with a cut that fails.
-/

set_option autoImplicit false

namespace Accessors.Address

/-- Why reading a piece gives no segment. -/
inductive Halt where
  | refused
  /-- A cut does not fall between two characters of the text. -/
  | outside
  /-- There are no turns left. -/
  | unfinished
deriving DecidableEq

def bytes : List Char → Nat
  | [] => 0
  | c :: cs => c.utf8Size + bytes cs

/-- The two parts of a text, before and behind an offset. -/
def cut (offset : Nat) : List Char → Except Halt (List Char × List Char)
  | [] => if offset = 0 then .ok ([], []) else .error .outside
  | c :: cs =>
    if offset = 0 then .ok ([], c :: cs)
    else if offset < c.utf8Size then .error .outside
    else (fun parts => (c :: parts.1, parts.2)) <$> cut (offset - c.utf8Size) cs

/-- The text from one offset up to another. -/
def slice (start stop : Nat) (cs : List Char) : Except Halt (List Char) := do
  let upTo ← cut stop cs
  let parts ← cut start upTo.1
  return parts.2

/-- The offset of the first such character. -/
def find? (c : Char) (cs : List Char) : Option Nat :=
  if c ∈ cs then some (bytes (cs.takeWhile (· != c))) else none

def orRefused {α : Type} : Option α → Except Halt α
  | some a => .ok a
  | none => .error .refused

/-- What may follow a key or an index: nothing, or another index. -/
def goesOn (cs : List Char) : Bool := cs.isEmpty || cs.head? == some '['

/-- Cuts indices off a text for a number of turns: each of them goes up to the next closing bracket. -/
def cutIndices : Nat → List Char → Except Halt (List String)
  | 0, _ => .error .unfinished
  | _ + 1, [] => .ok []
  | turns + 1, cs => do
    let close ← orRefused (find? ']' cs)
    let expr ← slice 1 close cs
    let index := Text.trim expr
    if index.isEmpty || index.contains '[' then .error .refused
    else
      let parts ← cut (close + 1) cs
      if goesOn parts.2 then (String.ofList index :: ·) <$> cutIndices turns parts.2
      else .error .refused

/-- Cuts a piece at its first opening bracket, and what follows it into indices. -/
def cutPiece (turns : Nat) (piece : List Char) : Except Halt Segment := do
  let opening := (find? '[' piece).getD (bytes piece)
  let parts ← cut opening piece
  if parts.1.isEmpty then .error .refused
  else (⟨String.ofList parts.1, ·⟩) <$> cutIndices turns parts.2

theorem bytes_append (front back : List Char) : bytes (front ++ back) = bytes front + bytes back := by
  induction front with
  | nil => simp [bytes]
  | cons c front ih => simp [bytes, ih, Nat.add_assoc]

theorem cut_append (front back : List Char) : cut (bytes front) (front ++ back) = .ok (front, back) := by
  induction front with
  | nil => cases back <;> rfl
  | cons c front ih =>
    have hpos := c.utf8Size_pos
    have hne : bytes (c :: front) ≠ 0 := by
      rw [bytes]
      omega
    have hle : ¬bytes (c :: front) < c.utf8Size := by
      rw [bytes]
      omega
    rw [List.cons_append, cut, if_neg hne, if_neg hle, bytes, Nat.add_sub_cancel_left, ih,
      Except.map_ok]

theorem slice_append (front middle back : List Char) :
    slice (bytes front) (bytes (front ++ middle)) (front ++ middle ++ back) = .ok middle := by
  rw [slice, cut_append, ok_bind, cut_append, ok_bind]
  rfl

theorem find?_append {c : Char} {front : List Char} (h : c ∉ front) (back : List Char) :
    find? c (front ++ c :: back) = some (bytes front) := by
  have hfront : ∀ d ∈ front, (d != c) = true := by
    intro d hd
    simpa using ne_of_mem_of_not_mem hd h
  rw [find?, if_pos (by simp), List.takeWhile_append_of_pos hfront, List.takeWhile_cons_of_neg (by simp),
    List.append_nil]

theorem find?_eq_none {c : Char} {cs : List Char} (h : c ∉ cs) : find? c cs = none := if_neg h

theorem indices?_cons {expr : List Char} (h : ']' ∉ expr) (rest : List Char) :
    indices? ('[' :: expr ++ ']' :: rest) =
      (index? ('[' :: expr)).bind fun index => (indices? rest).map (index :: ·) := by
  have hfree : ']' ∉ '[' :: expr := by simpa using h
  have hsplit : ('[' :: expr ++ ']' :: rest).splitOn ']' = ('[' :: expr) :: rest.splitOn ']' := by
    rw [List.splitOn_append_cons_self, List.splitOn_eq_singleton hfree]
    rfl
  obtain ⟨piece, pieces, hpieces⟩ := List.exists_cons_of_ne_nil (List.splitOn_ne_nil ']' rest)
  rw [indices?, indices?, hsplit, hpieces, List.getLast?_cons_cons, List.dropLast_cons_cons,
    List.mapM_cons]
  cases index? ('[' :: expr) with
  | none => simp
  | some index =>
    by_cases hlast : (piece :: pieces).getLast? = some []
    · simp only [if_pos hlast]
      cases (piece :: pieces).dropLast.mapM index? <;> rfl
    · simp only [if_neg hlast]
      rfl

theorem goesOn_of_indices? {cs : List Char} {indices : List String} (h : indices? cs = some indices) :
    goesOn cs = true := by
  obtain ⟨exprs, rfl, -⟩ := exists_exprs_of_indices? h
  cases exprs <;> rfl

theorem indices?_eq_none {cs : List Char} (hne : cs ≠ []) (h : ']' ∉ cs) : indices? cs = none := by
  cases hread : indices? cs with
  | none => rfl
  | some indices =>
    obtain ⟨exprs, rfl, -⟩ := exists_exprs_of_indices? hread
    cases exprs with
    | nil => exact absurd rfl hne
    | cons expr exprs => simp [bracketed] at h

theorem cuts_of_turn {expr : List Char} (h : ']' ∉ expr) (rest : List Char) :
    ∃ close, find? ']' ('[' :: expr ++ ']' :: rest) = some close ∧
      slice 1 close ('[' :: expr ++ ']' :: rest) = .ok expr ∧
      cut (close + 1) ('[' :: expr ++ ']' :: rest) = .ok ('[' :: expr ++ [']'], rest) := by
  have hfree : ']' ∉ '[' :: expr := by simpa using h
  refine ⟨bytes ('[' :: expr), find?_append hfree rest, ?_, ?_⟩
  · exact slice_append ['['] expr (']' :: rest)
  · have hcut := cut_append ('[' :: expr ++ [']']) rest
    rwa [bytes_append, List.append_assoc] at hcut

theorem cutIndices_turn (turns : Nat) {expr : List Char} (h : ']' ∉ expr) (rest : List Char) :
    cutIndices (turns + 1) ('[' :: expr ++ ']' :: rest) =
      orRefused (index? ('[' :: expr)) >>= fun index =>
        if goesOn rest then (index :: ·) <$> cutIndices turns rest else .error .refused := by
  obtain ⟨close, hfind, hslice, hcut⟩ := cuts_of_turn h rest
  rw [List.cons_append] at hfind hslice hcut ⊢
  rw [cutIndices, hfind, orRefused, ok_bind, hslice, ok_bind, hcut, index?]
  · dsimp only
    split <;> rfl
  · exact List.cons_ne_nil _ _

theorem cutIndices_eq (turns : Nat) {cs : List Char} (hstart : goesOn cs = true)
    (hturns : cs.length < turns) : cutIndices turns cs = orRefused (indices? cs) := by
  -- Before every turn what is left is empty or starts with an opening bracket, and it gets shorter.
  induction turns generalizing cs with
  | zero => exact absurd hturns (Nat.not_lt_zero _)
  | succ turns ih =>
    cases cs with
    | nil => rfl
    | cons c cs =>
      obtain rfl : c = '[' := by simpa [goesOn] using hstart
      by_cases hclose : ']' ∈ cs
      · obtain ⟨expr, rest, rfl, hfree⟩ := List.eq_append_cons_of_mem hclose
        rw [← List.cons_append, cutIndices_turn turns hfree, indices?_cons hfree]
        cases index? ('[' :: expr) with
        | none => rfl
        | some index =>
          rw [orRefused, ok_bind, Option.bind_some]
          cases hrest : goesOn rest with
          | false =>
            have hnone : indices? rest = none := by
              by_contra hsome
              obtain ⟨indices, hindices⟩ := Option.ne_none_iff_exists'.mp hsome
              rw [goesOn_of_indices? hindices] at hrest
              exact nomatch hrest
            rw [hnone]
            rfl
          | true =>
            have hshorter : rest.length < turns := by
              simp only [List.length_cons, List.length_append] at hturns
              omega
            rw [if_pos rfl, ih hrest hshorter]
            cases indices? rest <;> rfl
      · have hfree : ']' ∉ '[' :: cs := by simpa using hclose
        rw [cutIndices, find?_eq_none hfree, indices?_eq_none (List.cons_ne_nil _ _) hfree]
        · rfl
        · exact List.cons_ne_nil _ _

theorem goesOn_dropWhile (piece : List Char) : goesOn (piece.dropWhile (· != '[')) = true := by
  have hhead := List.head?_dropWhile_not (· != '[') piece
  cases hrest : piece.dropWhile (· != '[') with
  | nil => rfl
  | cons c cs =>
    rw [hrest] at hhead
    simpa [goesOn] using hhead

theorem cut_opening (piece : List Char) :
    cut ((find? '[' piece).getD (bytes piece)) piece =
      .ok (piece.takeWhile (· != '['), piece.dropWhile (· != '[')) := by
  have hoffset : (find? '[' piece).getD (bytes piece) = bytes (piece.takeWhile (· != '[')) := by
    by_cases hopening : '[' ∈ piece
    · rw [find?, if_pos hopening, Option.getD_some]
    · have hall : piece.takeWhile (· != '[') = piece := by
        rw [List.takeWhile_eq_self_iff]
        intro c hc
        simpa using ne_of_mem_of_not_mem hc hopening
      rw [find?_eq_none hopening, Option.getD_none, hall]
  have hcut := cut_append (piece.takeWhile (· != '[')) (piece.dropWhile (· != '['))
  rwa [List.takeWhile_append_dropWhile, ← hoffset] at hcut

/-- As many turns as the piece has characters are enough, whatever the piece is. -/
theorem cutPiece_eq {turns : Nat} {piece : List Char} (hturns : piece.length < turns) :
    cutPiece turns piece = orRefused (Segment.ofPiece? piece) := by
  have hlength : (piece.dropWhile (· != '[')).length < turns :=
    Nat.lt_of_le_of_lt (List.dropWhile_suffix _).length_le hturns
  rw [cutPiece, cut_opening, ok_bind]
  dsimp only
  rw [cutIndices_eq turns (goesOn_dropWhile piece) hlength, Segment.ofPiece?]
  cases piece.takeWhile (· != '[') with
  | nil => rfl
  | cons c cs => cases indices? (piece.dropWhile (· != '[')) <;> rfl

/-- Segments are read from exactly the addresses whose pieces all have the form, in the one way in which
they have it; otherwise the first piece without it is reported. Segments that are written with separators
in between are read back. Cutting a piece with a turn for each of its characters comes to an end inside
the piece and gives the segment, or refuses the piece where there is none. -/
theorem segments_accept_forms (address : String) :
    (∀ found, segments address = .ok found ↔ List.Forall₂ Spells (pieces address) found) ∧
    (∀ e, segments address = .error e ↔
      ∃ earlier piece later, pieces address = earlier ++ piece :: later ∧
        (∀ other ∈ earlier, ∃ key exprs, HasForm other key exprs) ∧
        (¬∃ key exprs, HasForm piece key exprs) ∧ e = .invalidToken (String.ofList piece)) ∧
    (∀ piece key key' exprs exprs', HasForm piece key exprs → HasForm piece key' exprs' →
      key = key' ∧ exprs = exprs') ∧
    (∀ found : List Segment, (∀ segment ∈ found, segment.Plain) →
      segments (String.intercalate "/" (found.map Segment.text)) = .ok found) ∧
    ∀ piece turns, piece.length < turns →
      cutPiece turns piece = orRefused (Segment.ofPiece? piece) := by
  refine ⟨?_, ?_, ?_, ?_, ?_⟩
  · intro found
    exact segments_eq_ok_iff
  · intro e
    exact segments_eq_error_iff
  · intro piece key key' exprs exprs' h h'
    exact h.unique h'
  · intro found h
    exact segments_text h
  · intro piece turns h
    exact cutPiece_eq h

/-- A key with a closing bracket in it, an index between blanks, and an empty piece. -/
theorem segments_accept_forms_padded :
    segments "/a]b[ i ][j]//c" = .ok [⟨"a]b", ["i", "j"]⟩, ⟨"c", []⟩] ∧
      List.Forall₂ Spells (pieces "/a]b[ i ][j]//c") [⟨"a]b", ["i", "j"]⟩, ⟨"c", []⟩] ∧
      segments "a]b[i][j]/c" = .ok [⟨"a]b", ["i", "j"]⟩, ⟨"c", []⟩] := by
  obtain ⟨haccepted, -, -, hwritten, -⟩ := segments_accept_forms "/a]b[ i ][j]//c"
  have hfound : segments "/a]b[ i ][j]//c" = .ok [⟨"a]b", ["i", "j"]⟩, ⟨"c", []⟩] := rfl
  refine ⟨hfound, (haccepted _).mp hfound, hwritten [⟨"a]b", ["i", "j"]⟩, ⟨"c", []⟩] ?_⟩
  simp only [List.forall_mem_cons, List.not_mem_nil, false_implies, implies_true, and_true]
  constructor
  · exact ⟨by simp, by simp, by simp, by simp [Text.trim, Text.trimStart, Text.trimEnd, Text.isBlank],
      by simp⟩
  · exact ⟨by simp, by simp, by simp, by simp, by simp⟩

end Accessors.Address
