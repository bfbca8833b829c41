import Accessors.Proofs.Segments

/-!
Reading subscripts back. A key is read as a string literal and an index up to its closing bracket.
Each of them is taken off the front of the text without a look at the rest, so a chain of subscripts
has one reading only. An index that starts with a quote would be read as a key.
-/

set_option autoImplicit false

namespace Accessors.Address

/-- No index starts with a quote. -/
def Segment.Unquoted (segment : Segment) : Prop :=
  ∀ index ∈ segment.indices, index.toList.head? ≠ some '"'

theorem indices?_bracket_free {cs : List Char} {indices : List String}
    (h : indices? cs = some indices) : ∀ index ∈ indices, ']' ∉ index.toList := by
  intro index hindex hbracket
  obtain ⟨piece, hpiece, hread⟩ := exists_piece_of_indices? h hindex
  have hfree := Text.separator_free piece hpiece ']' (index?_subset hread hbracket)
  exact absurd hfree (by decide)

theorem Segment.ofPiece?_bracket_free {piece : List Char} {segment : Segment}
    (h : ofPiece? piece = some segment) : ∀ index ∈ segment.indices, ']' ∉ index.toList := by
  unfold ofPiece? at h
  split at h
  · exact nomatch h
  · obtain ⟨indices, hindices, rfl⟩ := Option.map_eq_some_iff.mp h
    exact indices?_bracket_free hindices

theorem bracket_free_of_segments {address : String} {found : List Segment}
    (h : segments address = .ok found) :
    ∀ segment ∈ found, ∀ index ∈ segment.indices, ']' ∉ index.toList := by
  intro segment hsegment
  obtain ⟨piece, -, hread⟩ := exists_piece_of_segments h hsegment
  exact Segment.ofPiece?_bracket_free hread

end Accessors.Address

namespace Accessors.Cpp

open Address

/-- Reads a string literal after its opening quote: the text that it stands for, and what follows its
closing quote. A backslash stands for the character after it. -/
def literal? : List Char → Option (List Char × List Char)
  | [] => none
  | '"' :: rest => some ([], rest)
  | '\\' :: c :: rest => (literal? rest).map fun (text, rest) => (c :: text, rest)
  | c :: rest => (literal? rest).map fun (text, rest) => (c :: text, rest)

theorem length_of_literal? {cs text rest : List Char} (h : literal? cs = some (text, rest)) :
    rest.length < cs.length := by
  fun_induction literal? cs generalizing text with
  | case1 => exact nomatch h
  | case2 rest' =>
    obtain ⟨-, rfl⟩ := Prod.mk.inj (Option.some.inj h)
    exact Nat.lt_succ_self _
  | case3 c cs ih =>
    obtain ⟨⟨text', rest'⟩, hread, heq⟩ := Option.map_eq_some_iff.mp h
    obtain ⟨-, rfl⟩ := Prod.mk.inj heq
    have := ih hread
    simp only [List.length_cons]
    omega
  | case4 c cs _ _ ih =>
    obtain ⟨⟨text', rest'⟩, hread, heq⟩ := Option.map_eq_some_iff.mp h
    obtain ⟨-, rfl⟩ := Prod.mk.inj heq
    have := ih hread
    simp only [List.length_cons]
    omega

/-- What a subscript says about a path: a key starts a segment, an index belongs to the latest one. -/
inductive Mark where
  | key (text : String)
  | index (text : String)

/-- The segments read so far come with the latest of them first. -/
def Mark.addTo? : Mark → List Segment → Option (List Segment)
  | key text, found => some (⟨text, []⟩ :: found)
  | index _, [] => none
  | index text, segment :: found =>
    some ({ segment with indices := segment.indices ++ [text] } :: found)

/-- Reads the first subscript of a text, and what follows it. -/
def mark? : List Char → Option (Mark × List Char)
  | '[' :: '"' :: cs =>
    match literal? cs with
    | some (text, ']' :: rest) => some (.key (String.ofList text), rest)
    | _ => none
  | '[' :: cs =>
    match cs.dropWhile (· != ']') with
    | _ :: rest => some (.index (String.ofList (cs.takeWhile (· != ']'))), rest)
    | [] => none
  | _ => none

theorem length_of_mark? {cs rest : List Char} {mark : Mark} (h : mark? cs = some (mark, rest)) :
    rest.length < cs.length := by
  unfold mark? at h
  split at h
  · split at h
    · rename_i hread
      obtain ⟨-, rfl⟩ := Prod.mk.inj (Option.some.inj h)
      have := length_of_literal? hread
      simp only [List.length_cons] at this ⊢
      omega
    · exact nomatch h
  · rename_i cs _
    split at h
    · rename_i hdrop
      obtain ⟨-, rfl⟩ := Prod.mk.inj (Option.some.inj h)
      have := (List.dropWhile_suffix (l := cs) (· != ']')).length_le
      simp only [hdrop, List.length_cons] at this ⊢
      omega
    · exact nomatch h
  · exact nomatch h

def readFrom? (found : List Segment) (cs : List Char) : Option (List Segment) :=
  if cs.isEmpty then some found.reverse
  else
    match h : mark? cs with
    | some (mark, rest) =>
      have := length_of_mark? h
      (mark.addTo? found).bind (readFrom? · rest)
    | none => none
termination_by cs.length

def readSubscripts? (code : String) : Option (List Segment) := readFrom? [] code.toList

theorem readFrom?_of_mark {cs rest : List Char} {mark : Mark} (h : mark? cs = some (mark, rest))
    (found : List Segment) :
    readFrom? found cs = (mark.addTo? found).bind (readFrom? · rest) := by
  have hne : ¬cs.isEmpty = true := by
    intro hnil
    rw [List.isEmpty_iff.mp hnil] at h
    exact nomatch h
  rw [readFrom?, if_neg hne]
  split
  · rename_i hmark
    obtain ⟨rfl, rfl⟩ := Prod.mk.inj (Option.some.inj (h.symm.trans hmark))
    rfl
  · rename_i hmark
    exact nomatch h.symm.trans hmark

/-- The quote that closes the literal of a key is the first one that no backslash stands before. -/
theorem literal?_escape (key rest : List Char) :
    literal? (key.flatMap escapeChar ++ '"' :: rest) = some (key, rest) := by
  induction key with
  | nil => rfl
  | cons c key ih =>
    rw [List.flatMap_cons, List.append_assoc]
    by_cases hback : c = '\\'
    · simp [hback, escapeChar, literal?, ih]
    by_cases hquote : c = '"'
    · simp [hquote, escapeChar, literal?, ih]
    have hc : escapeChar c = [c] := by simp [escapeChar, hback, hquote]
    rw [hc, List.singleton_append, literal?.eq_4 _ _ (by simpa using hquote) (by simp [hback]), ih]
    rfl

section Read
variable (rest : List Char)

theorem mark?_key (key : String) :
    mark? (("[\"" ++ escape key ++ "\"]").toList ++ rest) = some (.key key, rest) := by
  have htext : ("[\"" ++ escape key ++ "\"]").toList ++ rest =
      '[' :: '"' :: (key.toList.flatMap escapeChar ++ '"' :: ']' :: rest) := by simp [escape]
  rw [htext, mark?, literal?_escape]
  simp only [String.ofList_toList]

theorem mark?_index {index : String} (hquote : index.toList.head? ≠ some '"')
    (hbracket : ']' ∉ index.toList) :
    mark? (("[" ++ index ++ "]").toList ++ rest) = some (.index index, rest) := by
  have htext : ("[" ++ index ++ "]").toList ++ rest = '[' :: (index.toList ++ ']' :: rest) := by simp
  have hfree : ∀ c ∈ index.toList, (c != ']') = true := by
    intro c hc
    have hne : c ≠ ']' := fun heq => hbracket (heq ▸ hc)
    simpa using hne
  have hdrop : (index.toList ++ ']' :: rest).dropWhile (· != ']') = ']' :: rest := by
    rw [List.dropWhile_append_of_pos hfree]
    rfl
  have htake : (index.toList ++ ']' :: rest).takeWhile (· != ']') = index.toList := by
    rw [List.takeWhile_append_of_pos hfree]
    simp
  have hhead : ∀ cs, index.toList ++ ']' :: rest ≠ '"' :: cs := by
    intro cs heq
    cases hindex : index.toList with
    | nil => simp [hindex] at heq
    | cons c more => simp_all
  rw [htext, mark?]
  · simp only [hdrop, htake, String.ofList_toList]
  · exact hhead

/-- The indices of a segment go to the segment that was started last. -/
theorem readFrom?_indices {indices : List String}
    (h : ∀ index ∈ indices, index.toList.head? ≠ some '"' ∧ ']' ∉ index.toList)
    (key : String) (earlier : List String) (found : List Segment) :
    readFrom? (⟨key, earlier⟩ :: found)
        ((String.join (indices.map fun index => "[" ++ index ++ "]")).toList ++ rest) =
      readFrom? (⟨key, earlier ++ indices⟩ :: found) rest := by
  induction indices generalizing earlier with
  | nil => simp
  | cons index indices ih =>
    obtain ⟨⟨hquote, hbracket⟩, hindices⟩ := List.forall_mem_cons.mp h
    rw [List.map_cons, String.join_cons, String.toList_append, List.append_assoc,
      readFrom?_of_mark (mark?_index _ hquote hbracket)]
    simp only [Mark.addTo?, Option.bind_some]
    rw [ih hindices, List.append_assoc, List.singleton_append]

theorem readFrom?_subscript {segment : Segment} (hquotes : segment.Unquoted)
    (hbrackets : ∀ index ∈ segment.indices, ']' ∉ index.toList) (found : List Segment) :
    readFrom? found ((subscript segment).toList ++ rest) = readFrom? (segment :: found) rest := by
  rw [subscript, String.toList_append, List.append_assoc, readFrom?_of_mark (mark?_key _ _)]
  simp only [Mark.addTo?, Option.bind_some]
  exact readFrom?_indices rest (fun index h => ⟨hquotes index h, hbrackets index h⟩)
    segment.key [] found

end Read

theorem readFrom?_subscripts {segments : List Segment}
    (hquotes : ∀ segment ∈ segments, segment.Unquoted)
    (hbrackets : ∀ segment ∈ segments, ∀ index ∈ segment.indices, ']' ∉ index.toList)
    (found : List Segment) :
    readFrom? found (String.join (segments.map subscript)).toList =
      some (found.reverse ++ segments) := by
  induction segments generalizing found with
  | nil => simp [readFrom?]
  | cons segment segments ih =>
    obtain ⟨hquote, hquotes⟩ := List.forall_mem_cons.mp hquotes
    obtain ⟨hbracket, hbrackets⟩ := List.forall_mem_cons.mp hbrackets
    rw [List.map_cons, String.join_cons, String.toList_append,
      readFrom?_subscript _ hquote hbracket, ih hquotes hbrackets]
    simp

theorem readSubscripts?_of_segments {address : String} {found : List Segment}
    (h : segments address = .ok found) (hquotes : ∀ segment ∈ found, segment.Unquoted) :
    ∃ code, subscripts address = .ok code ∧ readSubscripts? code = some found := by
  refine ⟨String.join (found.map subscript), ?_, ?_⟩
  · rw [subscripts_eq_map, h, Except.map_ok]
  · exact readFrom?_subscripts hquotes (bracket_free_of_segments h) []

/-- The subscripts of an address give its segments back and are those of no other segments, and the
literal of a key ends where the key does, whatever the key holds and whatever follows. -/
theorem subscripts_read_back {address : String} {found : List Segment}
    (h : segments address = .ok found) (hquotes : ∀ segment ∈ found, segment.Unquoted) :
    ∃ code, subscripts address = .ok code ∧ readSubscripts? code = some found ∧
      (∀ other others, segments other = .ok others → (∀ segment ∈ others, segment.Unquoted) →
        others ≠ found → subscripts other ≠ .ok code) ∧
      ∀ (key : String) (rest : List Char),
        mark? (("[\"" ++ escape key ++ "\"]").toList ++ rest) = some (.key key, rest) := by
  obtain ⟨code, hcode, hread⟩ := readSubscripts?_of_segments h hquotes
  refine ⟨code, hcode, hread, ?_, fun key rest => mark?_key rest key⟩
  intro other others hother hquotes' hne heq
  obtain ⟨code', hcode', hread'⟩ := readSubscripts?_of_segments hother hquotes'
  obtain rfl := Except.ok.inj (heq.symm.trans hcode')
  exact hne (Option.some.inj (hread'.symm.trans hread))

/-- A key with a quote, a backslash and a bracket in it, and two indices. -/
theorem subscripts_read_back_marks :
    let found : List Segment := [⟨"a\"b\\]c", []⟩, ⟨"d", ["i", "j"]⟩]
    let code := "[\"a\\\"b\\\\]c\"][\"d\"][i][j]"
    segments "/a\"b\\]c/d[i][j]" = .ok found ∧ subscripts "/a\"b\\]c/d[i][j]" = .ok code ∧
      readSubscripts? code = some found := by
  intro found code
  have hfound : segments "/a\"b\\]c/d[i][j]" = .ok found := rfl
  have hcode : subscripts "/a\"b\\]c/d[i][j]" = .ok code := by decide
  obtain ⟨other, hother, hread, -⟩ := subscripts_read_back hfound (by simp [found, Segment.Unquoted])
  obtain rfl := Except.ok.inj (hcode.symm.trans hother)
  exact ⟨hfound, hcode, hread⟩

-- An index that starts with a quote cannot be told from a key.
example : subscripts "/a[\"b\"]" = subscripts "/a/b" := rfl

end Accessors.Cpp
