import Accessors.Proofs.Relocation

/-!
Schemas put one below the other. Reading goes through a text line by line and never looks ahead:
what follows cannot change a fault that was met before, and where no class is left open the second
schema is read as if it stood alone, only with other line numbers.
-/

set_option autoImplicit false

namespace Accessors

theorem Text.length_splitOnP {α : Type} (p : α → Bool) (xs : List α) :
    (xs.splitOnP p).length = xs.countP p + 1 := by
  induction xs with
  | nil => simp
  | cons x xs ih =>
    rw [List.splitOnP_cons_eq_if_modifyHead, List.countP_cons]
    split
    · rw [List.length_cons, ih]
    · rw [List.length_modifyHead, ih, Nat.add_zero]

theorem Text.splitOn_intercalate_newline {texts : List (List Char)} (h : texts ≠ []) :
    (['\n'].intercalate texts).splitOn '\n' = texts.flatMap (·.splitOn '\n') := by
  induction texts with
  | nil => exact absurd rfl h
  | cons text texts ih =>
    cases texts with
    | nil => simp
    | cons next texts =>
      rw [List.intercalate_cons_cons, List.append_assoc, List.singleton_append,
        List.splitOn_append_cons_self, ih (List.cons_ne_nil next texts)]
      rfl

namespace Line

theorem ofText_eq_numbered_splitOn (source : String) :
    ofText source = numbered 1 (source.toList.splitOn '\n') := by
  have hfree : ∀ line ∈ (source.toList.splitOn '\n').map String.ofList, '\n' ∉ line.toList := by
    intro line hline
    obtain ⟨piece, hpiece, rfl⟩ := List.mem_map.mp hline
    rw [String.toList_ofList]
    rw [List.splitOn_eq_splitOnP] at hpiece
    intro hmem
    exact absurd (Text.separator_free piece hpiece '\n' hmem) (by decide)
  have hsource : String.intercalate "\n" ((source.toList.splitOn '\n').map String.ofList) =
      source := by
    rw [← String.toList_inj, String.toList_intercalate, List.map_map]
    simp [Function.comp_def]
  have hlines := ofText_intercalate hfree
  rw [hsource] at hlines
  rw [hlines, List.map_map]
  simp [Function.comp_def]

/-- The physical lines of texts that are put below each other. -/
def physical (texts : List String) : List (List Char) := texts.flatMap (·.toList.splitOn '\n')

theorem ofText_joined (texts : List String) :
    ofText (String.intercalate "\n" texts) = numbered 1 (physical texts) := by
  cases texts with
  | nil => rfl
  | cons text texts =>
    rw [ofText_eq_numbered_splitOn, String.toList_intercalate]
    change numbered 1 ((['\n'].intercalate _).splitOn '\n') = _
    rw [Text.splitOn_intercalate_newline (by simp), List.flatMap_map, physical]

/-- The lines of the second text are numbered from where the first one ends. -/
theorem ofText_append (front back : String) :
    ofText (front ++ "\n" ++ back) = ofText front ++
      numbered (1 + (front.toList.count '\n' + 1)) (back.toList.splitOn '\n') := by
  have hlength : (front.toList.splitOn '\n').length = front.toList.count '\n' + 1 := by
    rw [List.splitOn_eq_splitOnP, Text.length_splitOnP]
    rfl
  have hsplit : (front ++ "\n" ++ back).toList.splitOn '\n' =
      front.toList.splitOn '\n' ++ back.toList.splitOn '\n' := by
    rw [← List.splitOn_append_cons_self]
    simp
  rw [ofText_eq_numbered_splitOn, hsplit, numbered_append, hlength, ← ofText_eq_numbered_splitOn]

theorem forall₂_numbered_add (start k : Nat) (raws : List (List Char)) :
    List.Forall₂ (Moved fun n n' => n' = n + k) (numbered start raws)
      (numbered (start + k) raws) := by
  induction raws generalizing start with
  | nil => exact .nil
  | cons raw raws ih =>
    rw [numbered_cons, numbered_cons, Nat.add_right_comm]
    refine List.rel_append ?_ (ih (start + 1))
    unfold read?
    dsimp only
    split
    · exact .cons ⟨rfl, rfl⟩ .nil
    · exact .nil

end Line

/-- The same fault, so many lines further down. -/
def Error.down (k : Nat) : Error → Error
  | malformed line text reason => malformed (line + k) text reason
  | unterminated line name => unterminated (line + k) name
  | e => e

theorem Relocated.eq_mapError {α : Type} {x y : Except Error α} {k : Nat}
    (h : Relocated (fun n n' => n' = n + k) Eq x y) : y = x.mapError (Error.down k) := by
  cases h with
  | ok hab => rw [hab]; rfl
  | malformed hn => rw [hn]; rfl
  | unterminated hn => rw [hn]; rfl
  | invalidToken => rfl

namespace Schema

namespace Stack

theorem run_append (s : Stack) (front back : List Line) :
    s.run (front ++ back) = front.foldlM step s >>= fun t => t.run back := by
  simp [run, List.foldlM_append]

/-- With no class open, what was found before only stands in front of what follows. -/
theorem run_top (nodes : List Node) (lines : List Line) :
    (⟨nodes, []⟩ : Stack).run lines = (nodes ++ ·) <$> start.run lines := by
  rw [run_eq_members, run_eq_members]
  change (members Scope.top lines).outcome >>= _ =
    (nodes ++ ·) <$> ((members Scope.top lines).outcome >>= _)
  cases (members Scope.top lines).outcome <;> rfl

end Stack

/-- A schema is read like its two parts, unless the first part leaves a class open. -/
theorem parse_append (front back : String)
    (h : ∀ line name, (parse front).outcome ≠ .error (.unterminated line name)) :
    (parse (front ++ "\n" ++ back)).outcome = do
      let nodes ← (parse front).outcome
      let more ← (parse back).outcome.mapError (Error.down (front.toList.count '\n' + 1))
      return nodes ++ more := by
  have hmoved : Stack.Moved (fun n n' => n' = n + (front.toList.count '\n' + 1)) .start .start :=
    ⟨rfl, .nil⟩
  have hback := (hmoved.run (Line.forall₂_numbered_add 1 _ (back.toList.splitOn '\n'))).eq_mapError
  rw [← Line.ofText_eq_numbered_splitOn, ← parse_outcome] at hback
  have hfront : (parse front).outcome =
      (Line.ofText front).foldlM Stack.step .start >>= Stack.finish := parse_outcome front
  rw [hfront] at h
  rw [parse_outcome, Line.ofText_append, Stack.run_append, hfront]
  cases hread : (Line.ofText front).foldlM Stack.step .start with
  | error e => rfl
  | ok s =>
    obtain ⟨nodes, _ | ⟨c, outer⟩⟩ := s
    · rw [ok_bind, ok_bind, Stack.run_top, hback]
      change _ = (parse back).outcome.mapError _ >>= fun more => Except.ok (nodes ++ more)
      rw [bind_ok_eq_map]
    · rw [hread] at h
      exact absurd rfl (h c.line c.name)

/-- The fault of a second part is moved down, and that of a first part stands whatever follows. -/
theorem parse_append_faults :
    (parse "class a\nint b\n\x7d").outcome =
        .ok [.classDef "a" "/a" [.scalar .int "b" "/a/b"]] ∧
      (parse ("class a\nint b\n\x7d" ++ "\n" ++ "\nint")).outcome =
        .error (.malformed 5 "int" .missingName) ∧
      (parse ("class a\nint b\n\x7d" ++ "\n" ++ "class c\n\x7d")).outcome =
        .ok [.classDef "a" "/a" [.scalar .int "b" "/a/b"], .classDef "c" "/c" []] ∧
      (parse ("class a\nint" ++ "\n" ++ "\x7d")).outcome =
        .error (.malformed 2 "int" .missingName) := by
  have hclosed : (parse "class a\nint b\n\x7d").outcome =
      .ok [.classDef "a" "/a" [.scalar .int "b" "/a/b"]] := by
    rw [parse_outcome]
    rfl
  have hfault : (parse "class a\nint").outcome = .error (.malformed 2 "int" .missingName) := by
    rw [parse_outcome]
    rfl
  have hback : (parse "\nint").outcome = .error (.malformed 2 "int" .missingName) := by
    rw [parse_outcome]
    rfl
  have hback' : (parse "class c\n\x7d").outcome = .ok [.classDef "c" "/c" []] := by
    rw [parse_outcome]
    rfl
  refine ⟨hclosed, ?_, ?_, ?_⟩
  · rw [parse_append _ _ (by simp [hclosed]), hclosed, hback]
    rfl
  · rw [parse_append _ _ (by simp [hclosed]), hclosed, hback']
    rfl
  · rw [parse_append _ _ (by simp [hfault]), hfault]
    rfl

end Schema

end Accessors
