import PgWrite.Proofs.Template
import PgWrite.Sql.Query

/-!
# The meaning of updates

An update is read from the lexemes of a query with its values bound to the question marks in their
order. It is executed on a table, a list of records: assignments read the record as it was, a
choice takes its first branch that matches, and only records that the condition admits are changed.
How a cell is compared with a bound value is left open, and no column may be assigned twice.
-/

namespace PgWrite

/-- A bound value with its type hint. -/
structure Bound where
  value : Value
  hint : Value

/-- A lexeme, or the value that is bound to a question mark. -/
inductive Token where
  | lexeme (l : Lexeme)
  | bound (b : Bound)

/-- Binds values to question marks, of which there must be as many. -/
def bindMarks : List Lexeme → List Bound → Option (List Token)
  | [], [] => some []
  | [], _ :: _ => none
  | .mark :: _, [] => none
  | .mark :: rest, b :: bs => (bindMarks rest bs).map (.bound b :: ·)
  | l :: rest, bs => (bindMarks rest bs).map (.lexeme l :: ·)

/-- `WHEN column = tested THEN result`. -/
structure Branch where
  column : String
  tested : Bound
  result : Bound

/-- What a column is set to. -/
inductive Expression where
  | bound (b : Bound)
  /-- `CASE branches ELSE otherwise END`. -/
  | choice (branches : List Branch) (otherwise : String)

/-- `column = value`. -/
structure Assignment where
  column : String
  value : Expression

/-- `column IN (values)`. -/
structure Membership where
  column : String
  values : List Bound

/-- `UPDATE table SET assignments WHERE condition`. -/
structure Update where
  table : TableRef String
  assignments : List Assignment
  condition : Membership

/-! ## Reading -/

namespace Token

/-- A comma. -/
def isComma : Token → Bool
  | .lexeme (.symbol c) => c = ','
  | _ => false

/-- The word before a condition. -/
def isWhere : Token → Bool
  | .lexeme (.word s) => s = "WHERE"
  | _ => false

end Token

/-- Reads the branches at the start of a text. -/
def Branch.readAll : List Token → List Branch × List Token
  | .lexeme (.word "WHEN") :: .lexeme (.name column) :: .lexeme (.symbol '=') :: .bound tested
      :: .lexeme (.word "THEN") :: .bound result :: rest =>
    let (branches, left) := readAll rest
    ({ column, tested, result } :: branches, left)
  | rest => ([], rest)

/-- Reads an assignment; a choice must have a branch. -/
def Assignment.read? : List Token → Option Assignment
  | [.lexeme (.name column), .lexeme (.symbol '='), .bound b] => some { column, value := .bound b }
  | .lexeme (.name column) :: .lexeme (.symbol '=') :: .lexeme (.word "CASE") :: rest =>
    match Branch.readAll rest with
    | (b :: branches, [.lexeme (.word "ELSE"), .lexeme (.name otherwise), .lexeme (.word "END")]) =>
      some { column, value := .choice (b :: branches) otherwise }
    | _ => none
  | _ => none

/-- Reads a single bound value. -/
def Bound.read? : List Token → Option Bound
  | [.bound b] => some b
  | _ => none

/-- Reads a condition, whose list must not be empty. -/
def Membership.read? : List Token → Option Membership
  | .lexeme (.name column) :: .lexeme (.word "IN") :: .lexeme (.symbol '(') :: rest =>
    match rest.getLast? with
    | some (.lexeme (.symbol ')')) =>
      ((rest.dropLast.splitOnP Token.isComma).mapM Bound.read?).map fun values => { column, values }
    | _ => none
  | _ => none

/-- Reads a table reference at the start of a text. -/
def readTable? : List Token → Option (TableRef String × List Token)
  | .lexeme (.name schema) :: .lexeme (.symbol '.') :: .lexeme (.name table) :: rest =>
    some ({ table, schema := some schema }, rest)
  | .lexeme (.name table) :: rest => some ({ table, schema := none }, rest)
  | _ => none

/-- Reads the assignments and the condition of an update. -/
def Update.readSet? (table : TableRef String) : List Token → Option Update
  | .lexeme (.word "SET") :: rest => do
    let assignments ← ((rest.takeWhile (!·.isWhere)).splitOnP Token.isComma).mapM Assignment.read?
    let condition ← Membership.read? ((rest.dropWhile (!·.isWhere)).drop 1)
    return { table, assignments, condition }
  | _ => none

/-- Reads an update. -/
def Update.read? : List Token → Option Update
  | .lexeme (.word "UPDATE") :: rest =>
    (readTable? rest).bind fun (table, rest) => Update.readSet? table rest
  | _ => none

/-- The update that a query is read as, with its values bound to the question marks. -/
def Query.update? (q : Query) : Option Update := do
  let sql ← q.sql.text?
  let lexemes ← lexemes? sql.toList
  let tokens ← bindMarks lexemes (List.zipWith Bound.mk q.params q.types)
  Update.read? tokens

/-! ## Execution -/

/-- The cells of a record by column. -/
abbrev Record := String → Value

section

variable (eq : Value → Value → Bool)

/-- The record is admitted by the condition. -/
def Membership.holds (m : Membership) (r : Record) : Bool :=
  m.values.any fun b => eq (r m.column) b.value

/-- The value of an expression for a record. -/
def Expression.eval (r : Record) : Expression → Value
  | .bound b => b.value
  | .choice branches otherwise =>
    match branches.find? fun b => eq (r b.column) b.tested.value with
    | some b => b.result.value
    | none => r otherwise

/-- A record with its new values, which are all found from the old ones. -/
def Update.assign (u : Update) (r : Record) : Record := fun column =>
  match u.assignments.find? fun a => a.column = column with
  | some a => a.value.eval eq r
  | none => r column

/-- The table behind an update; an update that assigns a column twice is refused. -/
def Update.execute (u : Update) (table : List Record) : Option (List Record) :=
  if (u.assignments.map (·.column)).Nodup then
    some (table.map fun r => if u.condition.holds eq r then u.assign eq r else r)
  else none

end

/-! ## Writing -/

/-- The tokens of lexemes without question marks. -/
def Token.all (lexemes : List Lexeme) : List Token :=
  lexemes.map .lexeme

/-- Parts with commas between them. -/
def Token.listed (parts : List (List Token)) : List Token :=
  [Token.lexeme (.symbol ',')].intercalate parts

def Branch.tokens (b : Branch) : List Token :=
  [.lexeme (.word "WHEN"), .lexeme (.name b.column), .lexeme (.symbol '='), .bound b.tested,
    .lexeme (.word "THEN"), .bound b.result]

def Assignment.tokens (a : Assignment) : List Token :=
  match a.value with
  | .bound b => [.lexeme (.name a.column), .lexeme (.symbol '='), .bound b]
  | .choice branches otherwise =>
    .lexeme (.name a.column) :: .lexeme (.symbol '=') :: .lexeme (.word "CASE")
      :: branches.flatMap Branch.tokens
      ++ [.lexeme (.word "ELSE"), .lexeme (.name otherwise), .lexeme (.word "END")]

def Membership.tokens (m : Membership) : List Token :=
  .lexeme (.name m.column) :: .lexeme (.word "IN") :: .lexeme (.symbol '(')
    :: Token.listed (m.values.map fun b => [.bound b]) ++ [.lexeme (.symbol ')')]

/-- The tokens that an update is read from. -/
def Update.tokens (u : Update) : List Token :=
  .lexeme (.word "UPDATE") :: Token.all u.table.lexemes ++ .lexeme (.word "SET")
    :: Token.listed (u.assignments.map Assignment.tokens) ++ .lexeme (.word "WHERE")
    :: u.condition.tokens

/-- No list of the update is empty. -/
structure Update.Filled (u : Update) : Prop where
  assignments : u.assignments ≠ []
  values : u.condition.values ≠ []
  branches : ∀ a ∈ u.assignments, ∀ otherwise, a.value ≠ .choice [] otherwise

/-! ## What is written is read back -/

/-- Parts that are read back are read back one after the other. -/
theorem mapM_map_eq_some {α β : Type} {read : β → Option α} {write : α → β} {parts : List α}
    (h : ∀ a ∈ parts, read (write a) = some a) : (parts.map write).mapM read = some parts := by
  induction parts with
  | nil => rfl
  | cons a parts ih =>
    have ha := h a (List.mem_cons_self ..)
    have hrest := ih fun b hb => h b (List.mem_cons_of_mem _ hb)
    simp [ha, hrest]

theorem Token.listed_cons_cons (p q : List Token) (parts : List (List Token)) :
    listed (p :: q :: parts) = p ++ .lexeme (.symbol ',') :: listed (q :: parts) := by
  simp [listed]

/-- A list is split into its parts, which have no commas of their own. -/
theorem splitOnP_listed {parts : List (List Token)} (hne : parts ≠ [])
    (h : ∀ p ∈ parts, ∀ x ∈ p, x.isComma = false) :
    (Token.listed parts).splitOnP Token.isComma = parts := by
  induction parts with
  | nil => exact absurd rfl hne
  | cons p parts ih =>
    have hp := h p (List.mem_cons_self ..)
    cases parts with
    | nil =>
      have hsingle : Token.listed [p] = p := by simp [Token.listed]
      rw [hsingle, List.splitOnP_eq_singleton hp]
    | cons q parts =>
      rw [Token.listed_cons_cons, List.splitOnP_append_cons_of_forall_mem hp _ rfl,
        ih (by simp) fun r hr => h r (List.mem_cons_of_mem _ hr)]

/-- Branches are read up to the word behind them. -/
theorem Branch.readAll_tokens (branches : List Branch) (rest : List Token) :
    readAll (branches.flatMap tokens ++ .lexeme (.word "ELSE") :: rest) =
      (branches, .lexeme (.word "ELSE") :: rest) := by
  induction branches with
  | nil => simp [readAll]
  | cons b branches ih =>
    have hb : (b :: branches).flatMap tokens ++ .lexeme (.word "ELSE") :: rest =
        .lexeme (.word "WHEN") :: .lexeme (.name b.column) :: .lexeme (.symbol '=')
          :: .bound b.tested :: .lexeme (.word "THEN") :: .bound b.result
          :: (branches.flatMap tokens ++ .lexeme (.word "ELSE") :: rest) := rfl
    rw [hb, readAll, ih]

/-- An assignment is read back. -/
theorem Assignment.read?_tokens {a : Assignment} (h : ∀ otherwise, a.value ≠ .choice [] otherwise) :
    read? a.tokens = some a := by
  obtain ⟨column, value⟩ := a
  cases value with
  | bound b => rfl
  | choice branches otherwise =>
    cases branches with
    | nil => exact absurd rfl (h otherwise)
    | cons b branches =>
      have hread := Branch.readAll_tokens (b :: branches)
        [.lexeme (.name otherwise), .lexeme (.word "END")]
      simp only [tokens, List.cons_append, read?, hread]

/-- No comma and no condition in an assignment. -/
theorem Assignment.tokens_inner (a : Assignment) :
    ∀ x ∈ a.tokens, x.isComma = false ∧ x.isWhere = false := by
  obtain ⟨column, value⟩ := a
  intro x hx
  cases value with
  | bound b =>
    simp only [tokens, List.mem_cons, List.not_mem_nil, or_false] at hx
    rcases hx with rfl | rfl | rfl <;> exact ⟨rfl, rfl⟩
  | choice branches otherwise =>
    simp only [tokens, Branch.tokens, List.mem_append, List.mem_cons, List.mem_flatMap,
      List.not_mem_nil, or_false] at hx
    rcases hx with (rfl | rfl | rfl | ⟨b, _, hb⟩) | rfl | rfl | rfl
    · exact ⟨rfl, rfl⟩
    · exact ⟨rfl, rfl⟩
    · exact ⟨rfl, rfl⟩
    · rcases hb with rfl | rfl | rfl | rfl | rfl | rfl <;> exact ⟨rfl, rfl⟩
    · exact ⟨rfl, rfl⟩
    · exact ⟨rfl, rfl⟩
    · exact ⟨rfl, rfl⟩

/-- A condition is read back. -/
theorem Membership.read?_tokens {m : Membership} (h : m.values ≠ []) :
    read? m.tokens = some m := by
  obtain ⟨column, values⟩ := m
  have hsplit : (Token.listed (values.map fun b => [.bound b])).splitOnP Token.isComma =
      values.map fun b => [.bound b] := by
    refine splitOnP_listed (by simpa using h) ?_
    intro p hp x hx
    obtain ⟨b, _, rfl⟩ := List.mem_map.mp hp
    rw [List.mem_singleton.mp hx]
    rfl
  have hvalues : (values.map fun b => [Token.bound b]).mapM Bound.read? = some values :=
    mapM_map_eq_some fun b _ => rfl
  simp only [tokens, List.cons_append, read?, List.getLast?_concat, List.dropLast_concat, hsplit,
    hvalues, Option.map_some]

/-- A table reference is read back before a word. -/
theorem readTable?_lexemes (ref : TableRef String) (word : String) (rest : List Token) :
    readTable? (Token.all ref.lexemes ++ .lexeme (.word word) :: rest) =
      some (ref, .lexeme (.word word) :: rest) := by
  obtain ⟨table, schema⟩ := ref
  cases schema <;> rfl

/-- An update is read back. -/
theorem Update.read?_tokens {u : Update} (h : u.Filled) : read? u.tokens = some u := by
  obtain ⟨table, assignments, condition⟩ := u
  have hinner : ∀ p ∈ assignments.map Assignment.tokens, ∀ x ∈ p,
      x.isComma = false ∧ x.isWhere = false := by
    intro p hp
    obtain ⟨a, _, rfl⟩ := List.mem_map.mp hp
    exact a.tokens_inner
  have hset : ∀ x ∈ Token.listed (assignments.map Assignment.tokens), (!x.isWhere) = true := by
    intro x hx
    rcases mem_intercalate hx with rfl | ⟨p, hp, hx⟩
    · rfl
    · simp [(hinner p hp x hx).2]
  have hsplit :=
    splitOnP_listed (by simpa using h.assignments) fun p hp x hx => (hinner p hp x hx).1
  have hassignments := mapM_map_eq_some fun a ha => Assignment.read?_tokens (h.branches a ha)
  have hcondition := Membership.read?_tokens h.values
  have hwhere : ∀ x ∈ (Token.lexeme (.word "WHERE") :: condition.tokens).head?,
      (!x.isWhere) = false := by
    intro x hx
    cases hx
    rfl
  simp only [tokens, List.cons_append, List.append_assoc, read?, readTable?_lexemes,
    Option.bind_some, readSet?, takeWhile_run hset hwhere, dropWhile_run hset hwhere, hsplit,
    hassignments, List.drop_succ_cons, List.drop_zero, hcondition, Option.bind_eq_bind,
    Option.pure_def]

/-! ## Binding -/

/-- Texts in a row bind their values in a row. -/
theorem bindMarks_append {xs ys : List Lexeme} {as bs : List Bound} {ts us : List Token}
    (hx : bindMarks xs as = some ts) (hy : bindMarks ys bs = some us) :
    bindMarks (xs ++ ys) (as ++ bs) = some (ts ++ us) := by
  fun_induction bindMarks xs as generalizing ts with
  | case1 =>
    cases hx
    exact hy
  | case2 => cases hx
  | case3 => cases hx
  | case4 rest b bs ih =>
    obtain ⟨tail, htail, rfl⟩ := Option.map_eq_some_iff.mp hx
    simp only [List.cons_append, bindMarks, ih htail, Option.map_some]
  | case5 l rest bs hl hl' ih =>
    obtain ⟨tail, htail, rfl⟩ := Option.map_eq_some_iff.mp hx
    cases l with
    | mark =>
      cases bs with
      | nil => exact (hl rfl rfl).elim
      | cons b bs => exact (hl' b bs rfl rfl).elim
    | word | name | symbol | integer =>
      simp only [List.cons_append, bindMarks, ih htail, Option.map_some]

/-- Lexemes without question marks bind nothing. -/
theorem bindMarks_plain {lexemes : List Lexeme} (h : ∀ l ∈ lexemes, l ≠ .mark) :
    bindMarks lexemes [] = some (Token.all lexemes) := by
  induction lexemes with
  | nil => rfl
  | cons l rest ih =>
    have hrest := ih fun m hm => h m (List.mem_cons_of_mem _ hm)
    cases l with
    | mark => exact absurd rfl (h .mark (List.mem_cons_self ..))
    | word | name | symbol | integer => simp only [bindMarks, hrest, Option.map_some]; rfl

/-- Words bind no values. -/
theorem bindMarks_words (texts : List String) :
    bindMarks (Lexeme.words texts) [] = some (Token.all (Lexeme.words texts)) := by
  refine bindMarks_plain fun l hl => ?_
  obtain ⟨text, _, rfl⟩ := List.mem_map.mp hl
  rintro ⟨⟩

/-- The parts of a list bind their values in a row. -/
theorem bindMarks_listed {α : Type} {part : α → List Lexeme} {values : α → List Bound}
    {tokens : α → List Token} {items : List α}
    (h : ∀ a ∈ items, bindMarks (part a) (values a) = some (tokens a)) :
    bindMarks (Lexeme.listed (items.map part)) (items.flatMap values) =
      some (Token.listed (items.map tokens)) := by
  induction items with
  | nil => rfl
  | cons a items ih =>
    have ha := h a (List.mem_cons_self ..)
    have hrest := ih fun b hb => h b (List.mem_cons_of_mem _ hb)
    cases items with
    | nil => simpa [Lexeme.listed, Token.listed] using ha
    | cons b items =>
      have hcomma : bindMarks [.symbol ','] [] = some [.lexeme (.symbol ',')] := rfl
      have hall := bindMarks_append ha (bindMarks_append hcomma hrest)
      simpa only [List.map_cons, Lexeme.listed_cons_cons, Token.listed_cons_cons,
        List.flatMap_cons, List.singleton_append, List.nil_append] using hall

/-- A condition binds the values of its list. -/
theorem Membership.bindMarks_among (m : Membership) :
    bindMarks (Lexeme.among m.column m.values.length) m.values = some m.tokens := by
  have hmarks : bindMarks (Lexeme.marks m.values.length) m.values =
      some (Token.listed (m.values.map fun b => [.bound b])) := by
    have hlisted : bindMarks (Lexeme.listed (m.values.map fun _ => [.mark]))
        (m.values.flatMap fun b => [b]) = some (Token.listed (m.values.map fun b => [.bound b])) :=
      bindMarks_listed fun _ _ => rfl
    rwa [List.map_const', List.flatMap_singleton'] at hlisted
  have hopen : bindMarks [.name m.column, .word "IN", .symbol '('] [] =
      some (Token.all [.name m.column, .word "IN", .symbol '(']) := rfl
  have hclose : bindMarks [.symbol ')'] [] = some [.lexeme (.symbol ')')] := rfl
  have hall := bindMarks_append hopen (bindMarks_append hmarks hclose)
  simpa [Lexeme.among, Lexeme.bracketed, tokens, Token.all] using hall

/-- A choice binds two values for every branch. -/
theorem Assignment.bindMarks_choice {column discriminator : String} {branches : List Branch}
    (h : ∀ b ∈ branches, b.column = discriminator) :
    bindMarks (Lexeme.choice discriminator (column, branches.length))
        (branches.flatMap fun b => [b.tested, b.result]) =
      some (tokens { column, value := .choice branches column }) := by
  have hbranches : bindMarks
      (List.replicate branches.length (Lexeme.branch discriminator)).flatten
      (branches.flatMap fun b => [b.tested, b.result]) = some (branches.flatMap Branch.tokens) := by
    induction branches with
    | nil => rfl
    | cons b branches ih =>
      have hb : bindMarks (Lexeme.branch discriminator) [b.tested, b.result] = some b.tokens := by
        rw [← h b (List.mem_cons_self ..)]
        rfl
      have hrest := ih fun c hc => h c (List.mem_cons_of_mem _ hc)
      simpa only [List.length_cons, List.replicate_succ, List.flatten_cons, List.flatMap_cons]
        using bindMarks_append hb hrest
  have hopen : bindMarks [.name column, .symbol '=', .word "CASE"] [] =
      some (Token.all [.name column, .symbol '=', .word "CASE"]) := rfl
  have hclose : bindMarks [.word "ELSE", .name column, .word "END"] [] =
      some (Token.all [.word "ELSE", .name column, .word "END"]) := rfl
  have hall := bindMarks_append hopen (bindMarks_append hbranches hclose)
  simpa [Lexeme.choice, tokens, Token.all] using hall

/-- A table reference binds nothing. -/
theorem TableRef.bindMarks_lexemes (ref : TableRef String) :
    bindMarks ref.lexemes [] = some (Token.all ref.lexemes) := by
  refine bindMarks_plain fun l hl => ?_
  unfold TableRef.lexemes at hl
  rintro rfl
  split at hl <;> simp at hl

/-- An update binds the values of its assignments before those of its condition. -/
theorem Update.bindMarks_tokens {set : List Lexeme} {values : List Bound} (u : Update)
    (h : bindMarks set values = some (Token.listed (u.assignments.map Assignment.tokens))) :
    bindMarks (Lexeme.words ["UPDATE"] ++ u.table.lexemes ++ Lexeme.words ["SET"] ++ set
        ++ Lexeme.words ["WHERE"] ++ Lexeme.among u.condition.column u.condition.values.length)
      (values ++ u.condition.values) = some u.tokens := by
  have hall := bindMarks_append
    (bindMarks_append (bindMarks_words ["UPDATE"]) u.table.bindMarks_lexemes)
    (bindMarks_append (bindMarks_words ["SET"])
      (bindMarks_append h
        (bindMarks_append (bindMarks_words ["WHERE"]) u.condition.bindMarks_among)))
  simpa [tokens, Token.all, Lexeme.words] using hall

end PgWrite
