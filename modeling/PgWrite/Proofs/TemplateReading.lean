import PgWrite.Proofs.Template

/-!
# Reading templates back

A template consists of lexemes that can be read back, so the text of a statement is read as its
template. A template determines its statement: names and counts are found again from the left, as
every list ends in a lexeme that none of its parts begins with.
-/

namespace PgWrite

open Lexeme

namespace Lexeme

@[simp] theorem all_regular_listed (parts : List (List Lexeme)) :
    (listed parts).all regular = parts.all fun p => p.all regular := by
  induction parts with
  | nil => rfl
  | cons p parts ih =>
    cases parts with
    | nil => simp [listed]
    | cons q parts =>
      have hcomma : regular (.symbol ',') = true := rfl
      rw [listed_cons_cons, List.all_append, List.all_cons, hcomma, ih, Bool.true_and]
      rfl

@[simp] theorem all_regular_bracketed (inner : List Lexeme) :
    (bracketed inner).all regular = inner.all regular := by
  have hopen : regular (.symbol '(') = true := rfl
  have hclose : regular (.symbol ')') = true := rfl
  simp [bracketed, hopen, hclose]

@[simp] theorem all_regular_marks (count : Nat) : (marks count).all regular = true := by
  rw [marks, all_regular_listed, List.all_eq_true]
  intro p hp
  rw [List.eq_of_mem_replicate hp]
  rfl

@[simp] theorem all_regular_names (texts : List String) : (names texts).all regular = true := by
  rw [names, all_regular_listed, List.all_map, List.all_eq_true]
  intro s _
  rfl

@[simp] theorem all_regular_among (column : String) (count : Nat) :
    (among column count).all regular = true := by
  rw [among, List.all_cons, List.all_cons, all_regular_bracketed, all_regular_marks]
  rfl

@[simp] theorem all_regular_choice (discriminator : String) (column : String × Nat) :
    (choice discriminator column).all regular = true := by
  have hbranch : (branch discriminator).all regular = true := rfl
  have hbranches :
      ((List.replicate column.2 (branch discriminator)).flatten).all regular = true := by
    rw [List.all_flatten, List.all_eq_true]
    intro p hp
    rw [List.eq_of_mem_replicate hp, hbranch]
  rw [choice, List.all_append, List.all_append, hbranches]
  rfl

@[simp] theorem all_regular_table (ref : TableRef String) : ref.lexemes.all regular = true := by
  unfold TableRef.lexemes
  split <;> rfl

@[simp] theorem all_regular_insertion (table : TableRef String) (columns : List String)
    (rows : Nat) : (insertion table columns rows).all regular = true := by
  have hrows : ((List.replicate rows (bracketed (marks columns.length))).all
      fun p => p.all regular) = true := by
    rw [List.all_eq_true]
    intro p hp
    rw [List.eq_of_mem_replicate hp, all_regular_bracketed, all_regular_marks]
  simp only [insertion, List.all_append, all_regular_table, all_regular_bracketed,
    all_regular_names, all_regular_listed, hrows, Bool.and_true]
  decide

theorem all_regular_conflicts (conflicts : ConflictRule String) :
    conflicts.lexemes.all regular = true := by
  cases conflicts with
  | fail => rfl
  | skip => decide
  | overwrite target columns =>
    have hset : ((columns.map overwritten).all fun p => p.all regular) = true := by
      rw [List.all_map, List.all_eq_true]
      intro c _
      rfl
    cases target with
    | columns chosen =>
      simp only [ConflictRule.lexemes, ConflictTarget.lexemes, List.all_append,
        all_regular_bracketed, all_regular_names, all_regular_listed, hset, Bool.and_true]
      decide
    | constraint chosen =>
      simp only [ConflictRule.lexemes, ConflictTarget.lexemes, List.all_append,
        all_regular_listed, hset, Bool.and_true]
      rfl

end Lexeme

/-- Templates are made of the lexemes that can be read back. -/
theorem Statement.all_regular_template (s : Statement String) : s.template.all regular = true := by
  cases s with
  | insert table columns rows conflicts =>
    rw [template, List.all_append, all_regular_insertion, all_regular_conflicts]
    rfl
  | delete table column count =>
    simp only [template, List.all_append, all_regular_table, all_regular_among, Bool.and_true]
    decide
  | deleteLimited table column count limit =>
    simp only [template, selection, List.all_append, all_regular_table, all_regular_bracketed,
      all_regular_among, Bool.and_true]
    rfl
  | update table columns column count =>
    have hset : ((columns.map assigned).all fun p => p.all regular) = true := by
      rw [List.all_map, List.all_eq_true]
      intro c _
      rfl
    simp only [template, List.all_append, all_regular_table, all_regular_listed, hset,
      all_regular_among, Bool.and_true]
    decide
  | caseUpdate table discriminator branches count =>
    have hset : ((branches.map (choice discriminator)).all fun p => p.all regular) = true := by
      rw [List.all_map, List.all_eq_true]
      intro b _
      exact all_regular_choice discriminator b
    simp only [template, List.all_append, all_regular_table, all_regular_listed, hset,
      all_regular_among, Bool.and_true]
    decide

/-- The text of a statement is read back as its template. -/
theorem Statement.lexemes?_render {s : Statement String} (h : s.Filled) :
    lexemes? s.render.toList = some s.template := by
  rw [toList_render h]
  exact lexemes?_written (fun l hl => List.all_eq_true.mp s.all_regular_template l hl) true

/-! ## Telling templates apart -/

namespace Lexeme

/-- A text that ends a list of parts: it goes on with no comma, and no part begins like it. -/
def EndsList {α : Type} (f : α → List Lexeme) (rest : List Lexeme) : Prop :=
  rest.head? ≠ some (.symbol ',') ∧ ∀ a, ∃ l more, f a = l :: more ∧ rest.head? ≠ some l

/-- Lists are told apart from any text behind them if their parts are. -/
theorem listed_cancel {α : Type} {f g : α → List Lexeme}
    (hfg : ∀ a b xs ys, f a ++ xs = g b ++ ys → a = b ∧ xs = ys) {as bs : List α}
    {xs ys : List Lexeme} (hx : EndsList g xs) (hy : EndsList f ys)
    (h : listed (as.map f) ++ xs = listed (bs.map g) ++ ys) : as = bs ∧ xs = ys := by
  have hstart {f : α → List Lexeme} {zs : List Lexeme} (hz : EndsList f zs) (a : α)
      (rest : List α) (tail : List Lexeme) : zs ≠ listed ((a :: rest).map f) ++ tail := by
    intro he
    obtain ⟨l, more, hl, hne⟩ := hz.2 a
    apply hne
    rw [he]
    cases rest with
    | nil => simp [listed, hl]
    | cons b rest => simp [listed_cons_cons, hl]
  induction as generalizing bs with
  | nil =>
    cases bs with
    | nil => exact ⟨rfl, h⟩
    | cons b bs => exact absurd h (hstart hx b bs ys)
  | cons a as ih =>
    cases bs with
    | nil => exact absurd h.symm (hstart hy a as xs)
    | cons b bs =>
      cases as with
      | nil =>
        cases bs with
        | nil =>
          obtain ⟨rfl, rest⟩ := hfg a b xs ys (by simpa [listed] using h)
          exact ⟨rfl, rest⟩
        | cons c bs =>
          simp only [List.map_cons, List.map_nil, listed_cons_cons, List.append_assoc] at h
          obtain ⟨_, rest⟩ := hfg a b _ _ (by simpa [listed] using h)
          exact absurd (by rw [rest]; rfl) hx.1
      | cons d as =>
        cases bs with
        | nil =>
          simp only [List.map_cons, List.map_nil, listed_cons_cons, List.append_assoc] at h
          obtain ⟨_, rest⟩ := hfg a b _ _ (by simpa [listed] using h)
          exact absurd (by rw [← rest]; rfl) hy.1
        | cons c bs =>
          simp only [List.map_cons, listed_cons_cons, List.append_assoc, List.cons_append] at h
          obtain ⟨rfl, rest⟩ := hfg a b _ _ h
          have hlist : listed ((d :: as).map f) ++ xs = listed ((c :: bs).map g) ++ ys :=
            (List.cons.inj rest).2
          obtain ⟨he, rest⟩ := ih hlist
          exact ⟨by rw [he], rest⟩

/-- Column lists are told apart. -/
theorem names_cancel {as bs : List String} {xs ys : List Lexeme}
    (h : bracketed (names as) ++ xs = bracketed (names bs) ++ ys) : as = bs ∧ xs = ys := by
  have hcancel (a b : String) (us vs : List Lexeme) (he : [Lexeme.name a] ++ us = [.name b] ++ vs) :
      a = b ∧ us = vs := by simpa using he
  have hend (zs : List Lexeme) : EndsList (fun s => [Lexeme.name s]) (.symbol ')' :: zs) :=
    ⟨by simp, fun a => ⟨.name a, [], rfl, by simp⟩⟩
  simp only [bracketed, names, List.cons_append, List.append_assoc, List.nil_append] at h
  obtain ⟨he, hrest⟩ := listed_cancel hcancel (hend _) (hend _) (List.cons.inj h).2
  exact ⟨he, (List.cons.inj hrest).2⟩

/-- Lists of a part that is repeated are told apart by their numbers. -/
theorem replicate_cancel {p : List Lexeme} {m n : Nat} {xs ys : List Lexeme}
    (hx : EndsList (fun _ : Unit => p) xs) (hy : EndsList (fun _ : Unit => p) ys)
    (h : listed (List.replicate m p) ++ xs = listed (List.replicate n p) ++ ys) :
    m = n ∧ xs = ys := by
  have hunits (k : Nat) : List.replicate k p = (List.replicate k ()).map fun _ => p := by simp
  rw [hunits m, hunits n] at h
  obtain ⟨he, hrest⟩ := listed_cancel (fun _ _ us vs hu => ⟨rfl, List.append_cancel_left hu⟩)
    hx hy h
  exact ⟨by simpa using congrArg List.length he, hrest⟩

/-- Conditions on identifiers are told apart. -/
theorem among_cancel {c d : String} {m n : Nat} {xs ys : List Lexeme}
    (h : among c m ++ xs = among d n ++ ys) : c = d ∧ m = n ∧ xs = ys := by
  have hend (zs : List Lexeme) : EndsList (fun _ : Unit => [Lexeme.mark]) (.symbol ')' :: zs) :=
    ⟨by simp, fun _ => ⟨.mark, [], rfl, by simp⟩⟩
  simp only [among, bracketed, marks, List.cons_append, List.append_assoc, List.nil_append,
    List.cons.injEq, Lexeme.name.injEq, true_and] at h
  obtain ⟨hm, hrest⟩ := replicate_cancel (hend _) (hend _) h.2
  exact ⟨h.1, hm, (List.cons.inj hrest).2⟩

/-- Table references are told apart where no dot follows them. -/
theorem table_cancel {s t : TableRef String} {xs ys : List Lexeme}
    (hx : xs.head? ≠ some (.symbol '.')) (hy : ys.head? ≠ some (.symbol '.'))
    (h : s.lexemes ++ xs = t.lexemes ++ ys) : s = t ∧ xs = ys := by
  obtain ⟨table, schema⟩ := s
  obtain ⟨table', schema'⟩ := t
  cases schema with
  | none =>
    cases schema' with
    | none => simpa [TableRef.lexemes] using h
    | some schema' =>
      simp only [TableRef.lexemes, List.cons_append, List.nil_append, List.cons.injEq] at h
      exact absurd (by rw [h.2]; rfl) hx
  | some schema =>
    cases schema' with
    | none =>
      simp only [TableRef.lexemes, List.cons_append, List.nil_append, List.cons.injEq] at h
      exact absurd (by rw [← h.2]; rfl) hy
    | some schema' =>
      simp only [TableRef.lexemes, List.cons_append, List.nil_append, List.cons.injEq,
        Lexeme.name.injEq, true_and] at h
      obtain ⟨rfl, rfl, rfl⟩ := h
      exact ⟨rfl, rfl⟩

/-- Runs of branches are told apart by their numbers, whatever their discriminators. -/
theorem branches_cancel {d e : String} {m n : Nat} {xs ys : List Lexeme}
    (h : (List.replicate m (branch d)).flatten ++ .word "ELSE" :: xs
      = (List.replicate n (branch e)).flatten ++ .word "ELSE" :: ys) : m = n ∧ xs = ys := by
  induction m generalizing n with
  | zero =>
    cases n with
    | zero => simpa using h
    | succ n => simp [List.replicate_succ, branch] at h
  | succ m ih =>
    cases n with
    | zero => simp [List.replicate_succ, branch] at h
    | succ n =>
      simp only [List.replicate_succ, List.flatten_cons, branch, List.cons_append,
        List.nil_append, List.cons.injEq, true_and] at h
      obtain ⟨rfl, hrest⟩ := ih h.2
      exact ⟨rfl, hrest⟩

/-- Choices among branches are told apart, whatever their discriminators. -/
theorem choice_cancel {d e : String} (a b : String × Nat) (xs ys : List Lexeme)
    (h : choice d a ++ xs = choice e b ++ ys) : a = b ∧ xs = ys := by
  obtain ⟨column, m⟩ := a
  obtain ⟨column', n⟩ := b
  simp only [choice, List.cons_append, List.append_assoc, List.nil_append, List.cons.injEq,
    Lexeme.name.injEq, true_and] at h
  obtain ⟨rfl, h⟩ := h
  obtain ⟨rfl, hrest⟩ := branches_cancel h
  simpa using hrest

/-- Conflict rules are told apart. -/
theorem conflicts_cancel {a b : ConflictRule String} (h : a.lexemes = b.lexemes) : a = b := by
  have hset {as bs : List String}
      (he : listed (as.map overwritten) = listed (bs.map overwritten)) : as = bs := by
    have hcancel (a b : String) (us vs : List Lexeme)
        (he : overwritten a ++ us = overwritten b ++ vs) : a = b ∧ us = vs := by
      simp only [overwritten, List.cons_append, List.cons.injEq, Lexeme.name.injEq] at he
      exact ⟨he.1, he.2.2.2.2.2⟩
    have hend : EndsList overwritten [] := ⟨by simp, fun a => ⟨.name a, _, rfl, by simp⟩⟩
    have he' : listed (as.map overwritten) ++ [] = listed (bs.map overwritten) ++ [] := by rw [he]
    exact (listed_cancel hcancel hend hend he').1
  cases a with
  | fail =>
    cases b with
    | fail => rfl
    | skip => simp [ConflictRule.lexemes, words] at h
    | overwrite target _ =>
      cases target <;> simp [ConflictRule.lexemes, ConflictTarget.lexemes, words] at h
  | skip =>
    cases b with
    | fail => simp [ConflictRule.lexemes, words] at h
    | skip => rfl
    | overwrite target _ =>
      cases target <;>
        simp [ConflictRule.lexemes, ConflictTarget.lexemes, words, bracketed] at h
  | overwrite target columns =>
    cases b with
    | fail => cases target <;> simp [ConflictRule.lexemes, ConflictTarget.lexemes, words] at h
    | skip =>
      cases target <;>
        simp [ConflictRule.lexemes, ConflictTarget.lexemes, words, bracketed] at h
    | overwrite target' columns' =>
      cases target with
      | columns chosen =>
        cases target' with
        | columns chosen' =>
          simp only [ConflictRule.lexemes, ConflictTarget.lexemes, List.append_assoc] at h
          obtain ⟨rfl, hrest⟩ := names_cancel (List.append_cancel_left h)
          rw [hset (List.append_cancel_left hrest)]
        | constraint chosen' =>
          simp [ConflictRule.lexemes, ConflictTarget.lexemes, words, bracketed] at h
      | constraint chosen =>
        cases target' with
        | columns chosen' =>
          simp [ConflictRule.lexemes, ConflictTarget.lexemes, words, bracketed] at h
        | constraint chosen' =>
          simp only [ConflictRule.lexemes, ConflictTarget.lexemes, List.append_assoc] at h
          have hrest := List.append_cancel_left h
          simp only [List.cons_append, List.nil_append, List.cons.injEq, Lexeme.name.injEq] at hrest
          rw [hrest.1, hset (List.append_cancel_left hrest.2)]

/-- Plain inserts are told apart where what follows them is a conflict rule. -/
theorem insertion_cancel {s t : TableRef String} {as bs : List String} {m n : Nat}
    {a b : ConflictRule String}
    (h : insertion s as m ++ a.lexemes = insertion t bs n ++ b.lexemes) :
    s = t ∧ as = bs ∧ m = n ∧ a = b := by
  have hend (columns : List String) (rule : ConflictRule String) :
      EndsList (fun _ : Unit => bracketed (marks columns.length)) rule.lexemes := by
    cases rule with
    | fail =>
      exact ⟨by simp [ConflictRule.lexemes],
        fun _ => ⟨_, _, rfl, by simp [ConflictRule.lexemes]⟩⟩
    | skip =>
      exact ⟨by simp [ConflictRule.lexemes, words],
        fun _ => ⟨_, _, rfl, by simp [ConflictRule.lexemes, words]⟩⟩
    | overwrite target _ =>
      cases target <;>
        exact ⟨by simp [ConflictRule.lexemes, ConflictTarget.lexemes, words],
          fun _ => ⟨_, _, rfl, by simp [ConflictRule.lexemes, ConflictTarget.lexemes, words]⟩⟩
  simp only [insertion, List.append_assoc] at h
  obtain ⟨rfl, htable⟩ := table_cancel (by simp [bracketed]) (by simp [bracketed])
    (List.append_cancel_left h)
  obtain ⟨rfl, hcolumns⟩ := names_cancel htable
  obtain ⟨rfl, hrows⟩ := replicate_cancel (hend as a) (hend as b)
    (List.append_cancel_left hcolumns)
  exact ⟨rfl, rfl, rfl, conflicts_cancel hrows⟩

/-- Choices of physical rows are told apart. -/
theorem selection_cancel {s t : TableRef String} {c d : String} {m n : Nat} {k l : Int}
    (h : bracketed (selection s c m k) = bracketed (selection t d n l)) :
    s = t ∧ c = d ∧ m = n ∧ k = l := by
  have hinner : selection s c m k = selection t d n l :=
    List.append_cancel_right (List.cons.inj h).2
  simp only [selection, List.append_assoc] at hinner
  obtain ⟨rfl, htable⟩ := table_cancel (by simp [words]) (by simp [words])
    (List.append_cancel_left hinner)
  obtain ⟨rfl, rfl, hlimit⟩ := among_cancel (List.append_cancel_left htable)
  simp only [List.cons.injEq, Lexeme.integer.injEq, and_true, true_and] at hlimit
  exact ⟨rfl, rfl, rfl, hlimit⟩

/-- Updates are told apart up to their assignments. -/
theorem update_cancel {s t : TableRef String} {xs ys : List Lexeme}
    (h : words ["UPDATE"] ++ (s.lexemes ++ (words ["SET"] ++ xs))
      = words ["UPDATE"] ++ (t.lexemes ++ (words ["SET"] ++ ys))) : s = t ∧ xs = ys := by
  obtain ⟨rfl, hrest⟩ := table_cancel (by simp [words]) (by simp [words])
    (List.append_cancel_left h)
  exact ⟨rfl, List.append_cancel_left hrest⟩

/-- The assignments of an update end where its condition begins. -/
theorem endsList_where {α : Type} {f : α → List Lexeme} {name : α → String}
    (hf : ∀ a, ∃ more, f a = .name (name a) :: more) (rest : List Lexeme) :
    EndsList f (words ["WHERE"] ++ rest) := by
  refine ⟨by simp [words], fun a => ?_⟩
  obtain ⟨more, hmore⟩ := hf a
  exact ⟨_, more, hmore, by simp [words]⟩

/-- An assignment of a value is no choice among branches. -/
theorem assigned_ne_choice {columns : List String} {branches : List (String × Nat)} {d : String}
    (hc : columns ≠ []) (hb : branches ≠ []) (xs ys : List Lexeme) :
    listed (columns.map assigned) ++ xs ≠ listed (branches.map (choice d)) ++ ys := by
  obtain ⟨c, columns, rfl⟩ := List.exists_cons_of_ne_nil hc
  obtain ⟨b, branches, rfl⟩ := List.exists_cons_of_ne_nil hb
  cases columns <;> cases branches <;> simp [listed, assigned, choice]

end Lexeme

/-- A template determines its statement. -/
theorem Statement.template_injective {s t : Statement String} (hs : s.Filled) (ht : t.Filled)
    (h : s.template = t.template) : s = t := by
  cases s with
  | insert table columns rows conflicts =>
    cases t with
    | insert table' columns' rows' conflicts' =>
      obtain ⟨rfl, rfl, rfl, rfl⟩ := insertion_cancel h
      rfl
    | delete | deleteLimited | update | caseUpdate => simp [template, insertion, words] at h
  | delete table column count =>
    cases t with
    | delete table' column' count' =>
      simp only [template, List.append_assoc] at h
      obtain ⟨rfl, hrest⟩ := table_cancel (by simp [words]) (by simp [words])
        (List.append_cancel_left h)
      have hmembers : among column count ++ [] = among column' count' ++ [] := by
        simpa using hrest
      obtain ⟨rfl, rfl, _⟩ := among_cancel hmembers
      rfl
    | deleteLimited table' column' count' limit' =>
      simp only [template, List.append_assoc] at h
      obtain ⟨_, hrest⟩ := table_cancel (by simp [words]) (by simp [words])
        (List.append_cancel_left h)
      simp [words, among] at hrest
    | insert | update | caseUpdate => simp [template, insertion, words] at h
  | deleteLimited table column count limit =>
    cases t with
    | deleteLimited table' column' count' limit' =>
      simp only [template, List.append_assoc] at h
      obtain ⟨_, hrest⟩ := table_cancel (by simp [words]) (by simp [words])
        (List.append_cancel_left h)
      obtain ⟨rfl, rfl, rfl, rfl⟩ :=
        selection_cancel (List.append_cancel_left (List.append_cancel_left hrest))
      rfl
    | delete table' column' count' =>
      simp only [template, List.append_assoc] at h
      obtain ⟨_, hrest⟩ := table_cancel (by simp [words]) (by simp [words])
        (List.append_cancel_left h)
      simp [words, among] at hrest
    | insert | update | caseUpdate => simp [template, insertion, words] at h
  | update table columns column count =>
    cases t with
    | update table' columns' column' count' =>
      simp only [template, List.append_assoc] at h
      obtain ⟨rfl, hset⟩ := update_cancel h
      have hcancel (a b : String) (us vs : List Lexeme)
          (he : assigned a ++ us = assigned b ++ vs) : a = b ∧ us = vs := by
        simpa [assigned] using he
      obtain ⟨rfl, hwhere⟩ := listed_cancel hcancel (endsList_where (fun _ => ⟨_, rfl⟩) _)
        (endsList_where (fun _ => ⟨_, rfl⟩) _) hset
      have hmembers : among column count ++ [] = among column' count' ++ [] := by
        simpa using List.append_cancel_left hwhere
      obtain ⟨rfl, rfl, _⟩ := among_cancel hmembers
      rfl
    | caseUpdate table' discriminator branches count' =>
      simp only [template, List.append_assoc] at h
      exact absurd (update_cancel h).2 (assigned_ne_choice hs ht.1 _ _)
    | insert | delete | deleteLimited => simp [template, insertion, words] at h
  | caseUpdate table discriminator branches count =>
    cases t with
    | update table' columns column count' =>
      simp only [template, List.append_assoc] at h
      exact absurd (update_cancel h).2.symm (assigned_ne_choice ht hs.1 _ _)
    | caseUpdate table' discriminator' branches' count' =>
      simp only [template, List.append_assoc] at h
      obtain ⟨rfl, hset⟩ := update_cancel h
      obtain ⟨rfl, hwhere⟩ := listed_cancel choice_cancel (endsList_where (fun _ => ⟨_, rfl⟩) _)
        (endsList_where (fun _ => ⟨_, rfl⟩) _) hset
      have hmembers : among discriminator count ++ [] = among discriminator' count' ++ [] := by
        simpa using List.append_cancel_left hwhere
      obtain ⟨rfl, rfl, _⟩ := among_cancel hmembers
      rfl
    | insert | delete | deleteLimited => simp [template, insertion, words] at h

end PgWrite
