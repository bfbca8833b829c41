import Accessors.Cpp.Definitions
import Accessors.Proofs.Blanks
import Accessors.Proofs.Outcomes

/-!
Addresses as lists of pieces. A separator never joins the end of one token with the start of the
next, so the steps of an address are those of its tokens, one token after the other.
-/

set_option autoImplicit false

namespace Accessors

namespace Address

/-- What stands between the separators of an address, empty pieces left out. -/
def pieces (address : String) : List (List Char) :=
  (address.toList.splitOn '/').filter (!·.isEmpty)

/-- The first piece that is not a key with indices. -/
def broken? (address : String) : Option String :=
  ((pieces address).find? fun piece => (Segment.ofPiece? piece).isNone).map String.ofList

theorem segments_eq_mapM (address : String) :
    segments address = (pieces address).mapM Segment.ofPiece := rfl

theorem mapM_ofPiece (ps : List (List Char)) :
    ps.mapM Segment.ofPiece =
      match ps.find? fun piece => (Segment.ofPiece? piece).isNone with
      | some piece => .error (.invalidToken (String.ofList piece))
      | none => .ok (ps.filterMap Segment.ofPiece?) := by
  induction ps with
  | nil => rfl
  | cons piece ps ih =>
    rw [List.mapM_cons, ih, List.find?_cons, List.filterMap_cons, Segment.ofPiece]
    cases Segment.ofPiece? piece with
    | none => rfl
    | some segment =>
      cases ps.find? fun piece => (Segment.ofPiece? piece).isNone <;> rfl

theorem segments_eq (address : String) :
    segments address = match broken? address with
      | some piece => .error (.invalidToken piece)
      | none => .ok ((pieces address).filterMap Segment.ofPiece?) := by
  rw [segments_eq_mapM, mapM_ofPiece, broken?]
  cases (pieces address).find? fun piece => (Segment.ofPiece? piece).isNone <;> rfl

theorem pieces_extend (parent token : String) :
    pieces (extend parent token) = pieces parent ++ pieces token := by
  unfold extend
  split
  · rename_i hlast
    obtain ⟨front, hfront⟩ := List.getLast?_eq_some_iff.mp hlast
    simp [pieces, hfront, List.splitOn_append_cons_self]
  · simp [pieces, List.splitOn_append_cons_self]

theorem segments_extend (parent token : String) :
    segments (extend parent token) = do
      let above ← segments parent
      let own ← segments token
      return above ++ own := by
  rw [segments_eq_mapM, pieces_extend, List.mapM_append]
  rfl

/-- What is read from an address that is built token by token, if one token more is read as one part
more. -/
theorem read_foldl {β : Type} {read : String → Except Error β} {join : List β → β}
    (hextend : ∀ parent token, read (extend parent token) = join <$> [parent, token].mapM read)
    (hone : ∀ part, join [part] = part)
    (hjoin : ∀ part part' parts, join (join [part, part'] :: parts) = join (part :: part' :: parts))
    (parent : String) (tokens : List String) :
    read (tokens.foldl extend parent) = join <$> (parent :: tokens).mapM read := by
  induction tokens generalizing parent with
  | nil => cases h : read parent <;> simp [h, hone]
  | cons token tokens ih =>
    rw [List.foldl_cons, ih, List.mapM_cons, List.mapM_cons, List.mapM_cons, hextend]
    cases h : read parent with
    | error e => simp [h]
    | ok part =>
      cases h' : read token with
      | error e => simp [h, h']
      | ok part' => cases tokens.mapM read <;> simp [h, h', hjoin]

theorem segments_foldl (parent : String) (tokens : List String) :
    segments (tokens.foldl extend parent) =
      List.flatten <$> (parent :: tokens).mapM segments := by
  apply read_foldl
  · intro above token
    rw [segments_extend]
    cases h : segments above <;> cases h' : segments token <;> simp [h, h']
  · simp
  · simp

theorem mem_pieces {address : String} {piece : List Char} (h : piece ∈ pieces address) :
    piece ⊆ address.toList := by
  obtain ⟨hm, -⟩ := List.mem_filter.mp h
  rw [List.splitOn_eq_splitOnP] at hm
  exact Text.subset_of_mem_splitOnP _ hm

theorem index?_subset {cs : List Char} {index : String} (h : index? cs = some index) :
    index.toList ⊆ cs := by
  unfold index? at h
  split at h
  · rename_i cs
    simp only [Option.ite_none_left_eq_some, Option.some.injEq] at h
    rw [← h.2, String.toList_ofList]
    exact List.subset_cons_of_subset '[' (Text.trim_subset cs)
  · exact nomatch h

/-- Every index is read from a piece before a closing bracket. -/
theorem exists_piece_of_indices? {cs : List Char} {indices : List String}
    (h : indices? cs = some indices) {index : String} (hindex : index ∈ indices) :
    ∃ piece ∈ cs.splitOnP (· == ']'), index? piece = some index := by
  unfold indices? at h
  simp only [Option.ite_none_right_eq_some] at h
  obtain ⟨piece, hpiece, hread⟩ := exists_of_mem_mapM h.2 hindex
  refine ⟨piece, ?_, hread⟩
  rw [← List.splitOn_eq_splitOnP]
  exact (List.dropLast_sublist _).subset hpiece

theorem indices?_subset {cs : List Char} {indices : List String} (h : indices? cs = some indices) :
    ∀ index ∈ indices, index.toList ⊆ cs := by
  intro index hindex
  obtain ⟨piece, hmem, hread⟩ := exists_piece_of_indices? h hindex
  exact List.Subset.trans (index?_subset hread) (Text.subset_of_mem_splitOnP piece hmem)

theorem Segment.ofPiece?_subset {piece : List Char} {segment : Segment}
    (h : ofPiece? piece = some segment) :
    segment.key.toList ⊆ piece ∧ ∀ index ∈ segment.indices, index.toList ⊆ piece := by
  unfold ofPiece? at h
  split at h
  · exact nomatch h
  · obtain ⟨indices, hindices, rfl⟩ := Option.map_eq_some_iff.mp h
    have hkey := List.takeWhile_prefix (l := piece) (· != '[')
    refine ⟨?_, fun index hindex => ?_⟩
    · simpa using hkey.subset
    · exact List.Subset.trans (indices?_subset hindices index hindex)
        (List.dropWhile_suffix (· != '[')).subset

theorem exists_piece_of_segments {address : String} {found : List Segment}
    (h : segments address = .ok found) {segment : Segment} (hsegment : segment ∈ found) :
    ∃ piece ∈ pieces address, Segment.ofPiece? piece = some segment := by
  rw [segments_eq] at h
  cases hb : broken? address with
  | some piece => simp [hb] at h
  | none =>
    simp only [hb, Except.ok.injEq] at h
    subst h
    exact List.mem_filterMap.mp hsegment

theorem mem_segments {address : String} {found : List Segment} (h : segments address = .ok found) :
    ∀ segment ∈ found, segment.key.toList ⊆ address.toList ∧
      ∀ index ∈ segment.indices, index.toList ⊆ address.toList := by
  intro segment hsegment
  obtain ⟨piece, hpiece, hread⟩ := exists_piece_of_segments h hsegment
  obtain ⟨hkey, hindices⟩ := Segment.ofPiece?_subset hread
  have hsubset := mem_pieces hpiece
  exact ⟨List.Subset.trans hkey hsubset,
    fun index hindex => List.Subset.trans (hindices index hindex) hsubset⟩

end Address

namespace Cpp

theorem subscripts_eq_map (address : String) :
    subscripts address =
      (fun found => String.join (found.map subscript)) <$> Address.segments address := by
  simp [subscripts]

theorem subscripts_root : subscripts Address.root = .ok "" := rfl

theorem subscripts_extend (parent token : String) :
    subscripts (Address.extend parent token) = do
      let above ← subscripts parent
      let own ← subscripts token
      return above ++ own := by
  simp only [subscripts_eq_map, Address.segments_extend]
  cases Address.segments parent <;> cases Address.segments token <;> simp [String.join_append]

/-- The subscripts of an address that is built token by token are those of the tokens, in order. -/
theorem subscripts_foldl (parent : String) (tokens : List String) :
    subscripts (tokens.foldl Address.extend parent) =
      String.join <$> (parent :: tokens).mapM subscripts := by
  apply Address.read_foldl
  · intro above token
    rw [subscripts_extend]
    cases h : subscripts above <;> cases h' : subscripts token <;> simp [h, h']
  · simp
  · simp [String.append_assoc]

/-- A text with `new` in place of every `c`. -/
def replaceAll (c : Char) (new cs : List Char) : List Char :=
  cs.flatMap fun d => if d = c then new else [d]

/-- A key is escaped by two replacements, the one of backslashes first. -/
theorem escape_eq_replaceAll (key : String) :
    (escape key).toList =
      replaceAll '"' ['\\', '"'] (replaceAll '\\' ['\\', '\\'] key.toList) := by
  have hchar : ∀ c, escapeChar c =
      replaceAll '"' ['\\', '"'] (if c = '\\' then ['\\', '\\'] else [c]) := by
    intro c
    by_cases hback : c = '\\'
    · simp [hback, escapeChar, replaceAll]
    by_cases hquote : c = '"'
    · simp [hquote, escapeChar, replaceAll]
    · simp [hback, hquote, escapeChar, replaceAll]
  rw [escape, String.toList_ofList, funext hchar]
  exact List.flatMap_assoc.symm

-- In the other order the backslash of an escaped quote is escaped again.
example : replaceAll '\\' ['\\', '\\'] (replaceAll '"' ['\\', '"'] ['"']) = ['\\', '\\', '"'] := rfl

theorem mem_escape {key : String} {c : Char} (h : c ∈ (escape key).toList) :
    c ∈ key.toList ∨ c = '\\' := by
  simp only [escape, String.toList_ofList, List.mem_flatMap] at h
  obtain ⟨d, hd, hc⟩ := h
  unfold escapeChar at hc
  split at hc
  · simp_all
  · split at hc
    · rename_i hquote
      rcases List.mem_cons.mp hc with rfl | hc
      · exact .inr rfl
      · exact .inl (by simp_all)
    · exact .inl (by simp_all)

/-- Besides the characters of the address, subscripts hold brackets, quotes and backslashes. -/
theorem mem_subscripts {address path : String} (h : subscripts address = .ok path) {c : Char}
    (hc : c ∈ path.toList) : c ∈ address.toList ∨ c ∈ ['[', ']', '"', '\\'] := by
  rw [subscripts_eq_map] at h
  cases hs : Address.segments address with
  | error e => simp [hs] at h
  | ok found =>
    simp only [hs, Except.map_ok, Except.ok.injEq] at h
    subst h
    simp only [String.toList_join, List.mem_flatMap, List.mem_map] at hc
    obtain ⟨_, ⟨segment, hsegment, rfl⟩, hc⟩ := hc
    obtain ⟨hkey, hindices⟩ := Address.mem_segments hs segment hsegment
    simp only [subscript, String.toList_append, String.toList_join, List.mem_append,
      List.mem_flatMap, List.mem_map] at hc
    have marks : ∀ text ∈ ["[\"", "\"]", "[", "]"], ∀ d ∈ text.toList,
        d ∈ ['[', ']', '"', '\\'] := by simp
    rcases hc with ((hc | hc) | hc) | ⟨_, ⟨index, hindex, rfl⟩, hc⟩
    · exact .inr (marks _ (by simp) c hc)
    · rcases mem_escape hc with hc | rfl
      · exact .inl (hkey hc)
      · exact .inr (by simp)
    · exact .inr (marks _ (by simp) c hc)
    · rw [String.toList_append, String.toList_append, List.mem_append, List.mem_append] at hc
      rcases hc with (hc | hc) | hc
      · exact .inr (marks _ (by simp) c hc)
      · exact .inl (hindices index hindex hc)
      · exact .inr (marks _ (by simp) c hc)

end Cpp
end Accessors
