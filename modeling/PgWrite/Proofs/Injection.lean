import PgWrite.Proofs.Outline
import PgWrite.Proofs.TemplateReading

/-!
# Names cannot leave their places

The text of a compiled transaction is read as the template of the statement that it asks for: every
name is one lexeme at its place, whatever characters it consists of, and the numbers of rows,
branches and identifiers are its own. Hence the text tells which statement was asked for.
-/

namespace PgWrite.Transaction

/-- Statements with the same text are the same. -/
theorem render_injective {s s' : Statement String} (hs : s.Filled) (hs' : s'.Filled)
    (h : s.render = s'.render) : s = s' := by
  have hread := Statement.lexemes?_render hs
  rw [h, Statement.lexemes?_render hs'] at hread
  exact Statement.template_injective hs hs' (Option.some.inj hread).symm

/-- The text of a compiled transaction is read as the template of its own names, counts and limit,
and no transaction that asks for another statement compiles to the same text. -/
theorem compiled_text_is_template {t : Transaction} (hbuilt : t.Constructed) (hkind : t.kind ≠ .raw)
    {q : Query} {event : LogEvent} (h : t.compile .standard = .ok (q, event)) :
    ∃ (s : Statement String) (sql : String), t.AsksFor s ∧ q.sql = .text sql ∧
      lexemes? sql.toList = some s.template ∧
      ∀ (t' : Transaction) (q' : Query) (event' : LogEvent), t'.Constructed → t'.kind ≠ .raw →
        t'.compile .standard = .ok (q', event') → q'.sql = q.sql →
        t'.kind = t.kind ∧ t'.AsksFor s := by
  obtain ⟨s, hs, hfilled, hsql, _, _⟩ := exists_statement hbuilt hkind h
  refine ⟨s, s.render, hs, hsql, Statement.lexemes?_render hfilled, ?_⟩
  intro t' q' event' hbuilt' hkind' h' hsame
  obtain ⟨s', hs', hfilled', hsql', _, _⟩ := exists_statement hbuilt' hkind' h'
  have htext : s'.render = s.render := by
    rw [hsql, hsql'] at hsame
    exact Value.text.inj hsame
  obtain rfl := render_injective hfilled' hfilled htext
  exact ⟨hs'.kind_eq.trans hs.kind_eq.symm, hs'⟩

/-- The arguments of a delete with one identifier, with names that try to leave their places. -/
def hostileArguments (schema : Value) (name : String) : Value :=
  ([("table_name", .text "t\"; DROP TABLE u; --"), ("schema", schema),
    ("identifier_column", .text "\"\" IN (?) OR $$ /* ("), ("identifiers", .ofList [.int 1]),
    ("statement_reuse_policy", .policy .none)].lookup name).getD .null

/-- A delete with names that try to leave their places. -/
def hostileDelete (schema : Value) : Transaction :=
  .delete {
    table := .text "t\"; DROP TABLE u; --"
    column := .text "\"\" IN (?) OR $$ /* ("
    identifiers := [.int 1]
    type := .null
    schema := schema
    options := { idempotent := .null, policy := .policy .none } }

theorem hostileDelete_text_is_template :
    ∃ q event, (hostileDelete .null).compile .standard = .ok (q, event) ∧
      ∃ (s : Statement String) (sql : String), (hostileDelete .null).AsksFor s ∧
        q.sql = .text sql ∧ lexemes? sql.toList = some s.template ∧
        (hostileDelete (.text "")).AsksFor s := by
  have hbuilt (schema : Value) : (hostileDelete schema).Constructed :=
    ⟨.delete, "column_types", hostileArguments schema, [], rfl⟩
  obtain ⟨q, event, h⟩ : ∃ q event, (hostileDelete .null).compile .standard = .ok (q, event) :=
    ⟨_, _, rfl⟩
  obtain ⟨s, sql, hs, hsql, hread, hothers⟩ :=
    compiled_text_is_template (hbuilt .null) (by decide) h
  have h' : (hostileDelete (.text "")).compile .standard = .ok (q, event) := h
  exact ⟨q, event, h, s, sql, hs, hsql, hread,
    (hothers _ q event (hbuilt _) (by decide) h' rfl).2⟩

end PgWrite.Transaction
