import Mathlib.Data.List.Induction
import Mathlib.Data.List.TakeWhile
import Accessors.Schema.Declaration

/-!
Where the symbol of a token stands. A token leads to its last piece, which starts with the symbol, and
there is only one way to cut it so. Pieces in front of the token and text behind its symbol make no
difference.
-/

set_option autoImplicit false

namespace Accessors

/-- A token leads to its last piece, this piece starts with a symbol, and the symbol ends there. -/
structure SymbolAt (token front name back : String) : Prop where
  written : token = front ++ name ++ back
  leads : ∀ c ∈ front.toList.getLast?, c = '/'
  ne_empty : name ≠ ""
  word : ∀ c ∈ name.toList, Text.isWord c = true
  slash_free : '/' ∉ back.toList
  stops : ∀ c ∈ back.toList.head?, Text.isWord c = false

theorem exists_last_piece (cs : List Char) :
    ∃ front piece, cs = front ++ piece ∧ (∀ c ∈ front.getLast?, c = '/') ∧ '/' ∉ piece := by
  induction cs using List.reverseRecOn with
  | nil => exact ⟨[], [], rfl, by simp, by simp⟩
  | append_singleton cs c ih =>
    by_cases hc : c = '/'
    · exact ⟨cs ++ [c], [], by simp, by simp [hc], by simp⟩
    · obtain ⟨front, piece, rfl, hfront, hpiece⟩ := ih
      refine ⟨front, piece ++ [c], by simp, hfront, ?_⟩
      simpa [hpiece] using Ne.symm hc

theorem getLastD_splitOn {front piece : List Char} (hfront : ∀ c ∈ front.getLast?, c = '/')
    (hpiece : '/' ∉ piece) : ((front ++ piece).splitOn '/').getLastD [] = piece := by
  rcases front.eq_nil_or_concat with rfl | ⟨init, c, rfl⟩
  · rw [List.nil_append, List.splitOn_eq_singleton hpiece]
    rfl
  · obtain rfl : c = '/' := hfront c (by simp)
    rw [List.concat_eq_append, List.append_assoc, List.singleton_append,
      List.splitOn_append_cons_self, List.splitOn_eq_singleton hpiece, List.getLastD_concat]

namespace SymbolAt

variable {token front name back : String}

theorem slash_free_piece (h : SymbolAt token front name back) :
    '/' ∉ name.toList ++ back.toList := by
  rw [List.mem_append]
  rintro (hmem | hmem)
  · exact absurd (h.word _ hmem) (by decide)
  · exact h.slash_free hmem

theorem toList_token (h : SymbolAt token front name back) :
    token.toList = front.toList ++ (name.toList ++ back.toList) := by
  rw [h.written, String.toList_append, String.toList_append, List.append_assoc]

/-- What a symbol and the text behind it make up is the last piece of the token. -/
theorem last_piece (h : SymbolAt token front name back) :
    (token.toList.splitOn '/').getLastD [] = name.toList ++ back.toList := by
  rw [h.toList_token, getLastD_splitOn h.leads h.slash_free_piece]

theorem takeWhile_piece (h : SymbolAt token front name back) :
    (name.toList ++ back.toList).takeWhile Text.isWord = name.toList := by
  have hstop : back.toList.takeWhile Text.isWord = [] := by
    have hhead := h.stops
    cases hback : back.toList with
    | nil => rfl
    | cons c cs =>
      rw [hback] at hhead
      rw [List.takeWhile_cons_of_neg]
      simp [hhead c rfl]
  rw [List.takeWhile_append_of_pos h.word, hstop, List.append_nil]

theorem symbolName_eq (h : SymbolAt token front name back) : symbolName token = .ok name := by
  rw [symbolName, h.last_piece, h.takeWhile_piece]
  split
  · rename_i hnil
    exact absurd (String.toList_eq_nil_iff.mp hnil) h.ne_empty
  · rw [String.ofList_toList]

/-- There is one way to cut a token. -/
theorem unique {front' name' back' : String} (h : SymbolAt token front name back)
    (h' : SymbolAt token front' name' back') : front = front' ∧ name = name' ∧ back = back' := by
  have hok := h.symbolName_eq
  rw [h'.symbolName_eq] at hok
  obtain rfl := Except.ok.inj hok
  have hpiece := h.last_piece
  rw [h'.last_piece] at hpiece
  have hback := List.append_cancel_left hpiece
  have hfront : front.toList ++ (name'.toList ++ back.toList) =
      front'.toList ++ (name'.toList ++ back'.toList) := by
    rw [← h.toList_token, ← h'.toList_token]
  rw [hback] at hfront
  refine ⟨?_, rfl, String.toList_inj.mp hback.symm⟩
  exact String.toList_inj.mp (List.append_cancel_right hfront)

theorem alone (h : SymbolAt token front name back) : SymbolAt name "" name "" where
  written := by simp
  leads := by simp
  ne_empty := h.ne_empty
  word := h.word
  slash_free := by simp
  stops := by simp

theorem behind (h : SymbolAt token front name back) {path : String}
    (hpath : path.toList.getLast? = some '/') :
    SymbolAt (path ++ token) (path ++ front) name back where
  written := by rw [h.written, String.append_assoc, String.append_assoc, String.append_assoc]
  leads := by
    intro c hc
    rw [String.toList_append, List.getLast?_append, hpath] at hc
    cases hlast : front.toList.getLast? with
    | none => simpa [hlast, eq_comm] using hc
    | some d =>
      apply h.leads
      simpa [hlast] using hc
  ne_empty := h.ne_empty
  word := h.word
  slash_free := h.slash_free
  stops := h.stops

theorem followed (h : SymbolAt token front name back) {tail : String} (hslash : '/' ∉ tail.toList)
    (hstop : ∀ c ∈ tail.toList.head?, Text.isWord c = false) :
    SymbolAt (token ++ tail) front name (back ++ tail) where
  written := by rw [h.written, String.append_assoc]
  leads := h.leads
  ne_empty := h.ne_empty
  word := h.word
  slash_free := by
    rw [String.toList_append, List.mem_append]
    rintro (hmem | hmem)
    · exact h.slash_free hmem
    · exact hslash hmem
  stops := by
    intro c hc
    rw [String.toList_append, List.head?_append] at hc
    cases hhead : back.toList.head? with
    | none => exact hstop c (by simpa [hhead] using hc)
    | some d => exact h.stops c (by simpa [hhead] using hc)

end SymbolAt

theorem exists_symbolAt {token name : String} (h : symbolName token = .ok name) :
    ∃ front back, SymbolAt token front name back := by
  obtain ⟨front, piece, htoken, hfront, hpiece⟩ := exists_last_piece token.toList
  rw [symbolName, htoken, getLastD_splitOn hfront hpiece] at h
  split at h
  · cases h
  · rename_i hne
    obtain rfl := Except.ok.inj h
    have hcut := List.takeWhile_append_dropWhile (p := Text.isWord) (l := piece)
    refine ⟨String.ofList front, String.ofList (piece.dropWhile Text.isWord), ?_, ?_, ?_, ?_, ?_, ?_⟩
    · rw [← String.toList_inj, htoken]
      simp [List.append_assoc]
    · rwa [String.toList_ofList]
    · simpa using hne
    · intro c hc
      rw [String.toList_ofList] at hc
      exact List.mem_takeWhile_imp hc
    · rw [String.toList_ofList]
      intro hmem
      exact hpiece ((List.dropWhile_suffix Text.isWord).subset hmem)
    · intro c hc
      rw [String.toList_ofList] at hc
      have hhead := List.head?_dropWhile_not Text.isWord piece
      rw [Option.mem_def.mp hc] at hhead
      exact hhead

theorem symbolName_eq_ok_iff {token name : String} :
    symbolName token = .ok name ↔ ∃ front back, SymbolAt token front name back := by
  constructor
  · exact exists_symbolAt
  · rintro ⟨front, back, h⟩
    exact h.symbolName_eq

theorem symbolName_eq_error {token : String} {e : Error} (h : symbolName token = .error e) :
    e = .invalidToken token := by
  unfold symbolName at h
  split at h
  · exact (Except.error.inj h).symm
  · cases h

theorem symbolName_eq_error_iff {token : String} {e : Error} :
    symbolName token = .error e ↔
      (¬ ∃ front name back, SymbolAt token front name back) ∧ e = .invalidToken token := by
  constructor
  · intro h
    refine ⟨?_, symbolName_eq_error h⟩
    rintro ⟨front, name, back, hcut⟩
    rw [hcut.symbolName_eq] at h
    cases h
  · rintro ⟨hnone, rfl⟩
    cases h : symbolName token with
    | ok name =>
      obtain ⟨front, back, hcut⟩ := exists_symbolAt h
      exact absurd ⟨front, name, back, hcut⟩ hnone
    | error e => rw [symbolName_eq_error h]

/-- The symbol of a token is what its one cut says, and a token without a cut is refused as a whole. A
symbol is its own symbol, and it stays when pieces are put in front of the token or when text that
neither goes on with it nor holds a slash is put behind. -/
theorem symbolName_cut (token : String) :
    (∀ name, symbolName token = .ok name ↔ ∃ front back, SymbolAt token front name back) ∧
    (∀ front name back front' name' back', SymbolAt token front name back →
      SymbolAt token front' name' back' → front = front' ∧ name = name' ∧ back = back') ∧
    (∀ e, symbolName token = .error e ↔
      (¬ ∃ front name back, SymbolAt token front name back) ∧ e = .invalidToken token) ∧
    ∀ name, symbolName token = .ok name →
      symbolName name = .ok name ∧
      (∀ path : String, path.toList.getLast? = some '/' → symbolName (path ++ token) = .ok name) ∧
      ∀ tail : String, '/' ∉ tail.toList → (∃ c ∈ tail.toList.head?, Text.isWord c = false) →
        symbolName (token ++ tail) = .ok name := by
  refine ⟨fun _ => symbolName_eq_ok_iff, fun _ _ _ _ _ _ h h' => h.unique h',
    fun _ => symbolName_eq_error_iff, ?_⟩
  intro name hname
  obtain ⟨front, back, hcut⟩ := exists_symbolAt hname
  refine ⟨hcut.alone.symbolName_eq, ?_, ?_⟩
  · intro path hpath
    exact (hcut.behind hpath).symbolName_eq
  · rintro tail hslash ⟨c, hc, hstop⟩
    apply (hcut.followed hslash ?_).symbolName_eq
    intro d hd
    obtain rfl := Option.mem_unique hc hd
    exact hstop

theorem symbolName_cut_image :
    symbolName "image" = .ok "image" ∧ symbolName "root/frame/image" = .ok "image" ∧
      symbolName "frame/image[i]" = .ok "image" := by
  have hname : symbolName "frame/image" = .ok "image" := by decide
  obtain ⟨hself, hpath, htail⟩ := (symbolName_cut "frame/image").2.2.2 "image" hname
  exact ⟨hself, hpath "root/" (by decide), htail "[i]" (by decide) ⟨'[', rfl, by decide⟩⟩

/-- A slash between brackets starts a piece too. -/
example : symbolName "frame/image[a/b]" = .ok "b" := by decide

end Accessors
