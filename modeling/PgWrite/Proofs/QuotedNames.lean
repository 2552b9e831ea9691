import PgWrite.Errors.GivenSignal
import PgWrite.Proofs.MarkerPlaces

/-!
# Quoted names read back

A quoted name is one region of the text around it, wherever it stands, unless a quote stands behind
it. What is strictly inside the region, with every doubled quote written once, is the name; so
different names are written differently. A reference to a table is read back in the same way: its
first region is the schema if anything stands behind it, and the table if nothing does, whatever
quotes and points the names contain.
-/

namespace PgWrite

/-- Text with every doubled quote written once, looked for from left to right. -/
def undoubled (quote : Char) : List Char → List Char
  | [] => []
  | [c] => [c]
  | c :: d :: rest =>
    if c = quote ∧ d = quote then quote :: undoubled quote rest
    else c :: undoubled quote (d :: rest)

/-- What is doubled is undone. -/
theorem undoubled_doubled (quote : Char) (content : List Char) :
    undoubled quote (doubled quote content) = content := by
  induction content with
  | nil => rfl
  | cons c content ih =>
    by_cases hc : c = quote
    · subst hc
      rw [doubled, if_pos rfl, undoubled, if_pos ⟨rfl, rfl⟩, ih]
    · rw [doubled, if_neg hc]
      cases htail : doubled quote content with
      | nil =>
        rw [htail] at ih
        rw [← ih]
        rfl
      | cons d tail =>
        rw [htail] at ih
        rw [undoubled, if_neg fun h => hc h.1, ih]

/-! ## The region of a name -/

/-- The place behind a text is where the text behind it begins. -/
theorem regionEnd?_append (before rest : List Char) :
    regionEnd? (before ++ rest) before.length =
      (region? before.reverse rest).map fun split => before.length + split.1.length := by
  rw [regionEnd?, List.take_left, List.drop_left]

/-- The region that opens at a quoted name goes on to the first quote behind the name that is not
doubled. -/
theorem region?_name_append (name : String) (before rest : List Char) :
    region? before ((quotedName name).toList ++ rest) =
      some (putInFront ('"' :: doubled '"' name.toList) (closeQuoted '"' false ('"' :: rest))) := by
  rw [toList_quotedName, List.cons_append, List.append_assoc, region?, List.singleton_append,
    closeQuoted_doubled_append]
  rfl

/-- The region of a name ends with the name just if no quote stands behind it. -/
theorem regionEnd?_name_iff {name : String} {before rest : List Char} :
    regionEnd? (before ++ ((quotedName name).toList ++ rest)) before.length =
      some (before.length + (quotedName name).toList.length) ↔ rest.head? ≠ some '"' := by
  constructor
  · rintro h hquote
    obtain ⟨tail, rfl⟩ : ∃ tail, rest = '"' :: tail := by
      cases rest with
      | nil => cases hquote
      | cons c tail => exact ⟨tail, by rw [Option.some.inj hquote]⟩
    rw [regionEnd?_append, region?_name_append, Option.map_some, Option.some.injEq] at h
    -- the two quotes count as one that is doubled
    simp [putInFront, closeQuoted, toList_quotedName] at h
  · intro h
    have hquote : ∀ c ∈ rest.head?, c ≠ '"' := by
      rintro c hc rfl
      exact h hc
    rw [regionEnd?_append, region?_name name _ hquote, Option.map_some]

/-- Inside the region of a name stand its characters, with the quotes among them doubled. -/
theorem inside_name (name : String) (before rest : List Char) :
    ((before ++ ((quotedName name).toList ++ rest)).take
      (before.length + (quotedName name).toList.length - 1)).drop (before.length + 1) =
        doubled '"' name.toList := by
  have hlength : before.length + (quotedName name).toList.length - 1 =
      (before ++ '"' :: doubled '"' name.toList).length := by
    simp only [toList_quotedName, List.length_append, List.length_cons, List.length_nil]
    omega
  have htext : before ++ ((quotedName name).toList ++ rest) =
      (before ++ '"' :: doubled '"' name.toList) ++ '"' :: rest := by
    rw [toList_quotedName]
    simp
  rw [hlength, htext, List.take_left, ← List.drop_drop, List.drop_left]
  rfl

/-- Names in front of texts that begin with no quote are told apart, and so are the texts. -/
theorem quotedName_append_inj {name name' : String} {rest rest' : List Char}
    (h : ∀ c ∈ rest.head?, c ≠ '"') (h' : ∀ c ∈ rest'.head?, c ≠ '"')
    (heq : (quotedName name).toList ++ rest = (quotedName name').toList ++ rest') :
    name = name' ∧ rest = rest' := by
  have hregion := region?_name name [] h
  rw [heq, region?_name name' [] h', Option.some.injEq, Prod.mk.injEq] at hregion
  obtain ⟨hname, hrest⟩ := hregion
  rw [toList_quotedName, toList_quotedName, List.cons_inj_right, List.append_cancel_right_eq]
    at hname
  refine ⟨?_, hrest.symm⟩
  rw [← String.toList_inj, ← undoubled_doubled '"' name.toList, ← hname, undoubled_doubled]

/-- Different names are written differently. -/
theorem quotedName_inj {name name' : String} :
    quotedName name = quotedName name' ↔ name = name' := by
  refine ⟨fun h => ?_, fun h => h ▸ rfl⟩
  have hnil : ∀ c ∈ ([] : List Char).head?, c ≠ '"' := nofun
  refine (quotedName_append_inj hnil hnil ?_).1
  rw [h]

/-! ## References to tables -/

/-- A table without a schema, or with one that is empty, is written without one. -/
theorem qualified_standard (table : String) (schema : Option String) :
    qualified .standard (.text table) (optionValue .text schema) =
      .ok (TableRef.map quotedName ⟨table, schema.filter (· ≠ "")⟩).text := by
  cases schema with
  | none => rfl
  | some s =>
    by_cases hs : s = ""
    · subst hs
      rfl
    · simp [qualified, TableRef.ofValues, optionValue, Value.truthy, hs, Option.filter,
        TableRef.quoted, Quoter.standard, quoteValue, nameText, Value.text?, Except.map, bind,
        Except.bind, pure, Except.pure, TableRef.map]

/-- A written reference: a name, and behind it nothing, or a point and another name. -/
theorem toList_text_quoted (ref : TableRef String) :
    (ref.map quotedName).text.toList = match ref.schema with
      | none => (quotedName ref.table).toList ++ []
      | some schema => (quotedName schema).toList ++ '.' :: (quotedName ref.table).toList := by
  obtain ⟨table, schema⟩ := ref
  cases schema with
  | none => rw [List.append_nil]; rfl
  | some schema =>
    simp only [TableRef.map, TableRef.text, Option.map_some, String.toList_append,
      List.append_assoc]
    rfl

/-- Different references are written differently. -/
theorem TableRef.text_quoted_inj {ref ref' : TableRef String} :
    (ref.map quotedName).text = (ref'.map quotedName).text ↔ ref = ref' := by
  refine ⟨fun h => ?_, fun h => h ▸ rfl⟩
  have hnil : ∀ c ∈ ([] : List Char).head?, c ≠ '"' := nofun
  have hpoint (name : String) : ∀ c ∈ ('.' :: (quotedName name).toList).head?, c ≠ '"' := by
    rintro c ⟨⟩
    decide
  obtain ⟨table, schema⟩ := ref
  obtain ⟨table', schema'⟩ := ref'
  rw [← String.toList_inj, toList_text_quoted, toList_text_quoted] at h
  cases schema with
  | none =>
    cases schema' with
    | none =>
      obtain rfl : table = table' := (quotedName_append_inj hnil hnil h).1
      rfl
    | some schema' => cases (quotedName_append_inj hnil (hpoint table') h).2
  | some schema =>
    cases schema' with
    | none => cases (quotedName_append_inj (hpoint table) hnil h).2
    | some schema' =>
      obtain ⟨rfl, htable⟩ := quotedName_append_inj (hpoint table) (hpoint table') h
      rw [quotedName_inj.mp (String.toList_inj.mp (List.cons.inj htable).2)]

/-- An empty schema counts as none. -/
theorem filter_ne_empty_inj {schema schema' : Option String} :
    schema.filter (· ≠ "") = schema'.filter (· ≠ "") ↔ schema.getD "" = schema'.getD "" := by
  cases schema <;> cases schema' <;> grind [Option.filter]

/-- At a quoted name the scanner opens a region wherever the name stands, and ends it with the name
just if no quote stands behind. What is strictly inside, with doubled quotes written once, is the
name, so different names are written differently. References to tables are written differently just
if their tables differ or their schemas do, where an empty schema counts as none. -/
theorem quoted_names_read_back :
    (∀ name before after : String,
      (regionEnd? (before ++ quotedName name ++ after).toList before.length =
        some (before.length + (quotedName name).length) ↔ after.toList.head? ≠ some '"') ∧
      ∀ e, after.toList.head? ≠ some '"' →
        regionEnd? (before ++ quotedName name ++ after).toList before.length = some e →
        undoubled '"' (((before ++ quotedName name ++ after).toList.take (e - 1)).drop
          (before.length + 1)) = name.toList) ∧
    (∀ name name' : String, quotedName name = quotedName name' ↔ name = name') ∧
    ∀ (table table' : String) (schema schema' : Option String),
      (∃ text, qualified .standard (.text table) (optionValue .text schema) = .ok text) ∧
      (qualified .standard (.text table) (optionValue .text schema) =
        qualified .standard (.text table') (optionValue .text schema') ↔
        table = table' ∧ schema.getD "" = schema'.getD "") := by
  refine ⟨fun name before after => ?_, fun name name' => quotedName_inj, ?_⟩
  · have htext : (before ++ quotedName name ++ after).toList =
        before.toList ++ ((quotedName name).toList ++ after.toList) := by
      rw [String.toList_append, String.toList_append, List.append_assoc]
    rw [htext, ← String.length_toList, ← String.length_toList]
    refine ⟨regionEnd?_name_iff, fun e hafter he => ?_⟩
    rw [regionEnd?_name_iff.mpr hafter, Option.some.injEq] at he
    rw [← he, inside_name, undoubled_doubled]
  · intro table table' schema schema'
    rw [qualified_standard, qualified_standard, Except.ok.injEq, TableRef.text_quoted_inj,
      TableRef.mk.injEq, filter_ne_empty_inj]
    exact ⟨⟨_, rfl⟩, Iff.rfl⟩

/-- A name that is nothing but quotes is read back from inside what looks like a literal, and a
table whose name is a written reference is not taken for a table in that schema. -/
theorem quoteRun_reads_back :
    (∃ e, regionEnd? ("E'\"" ++ quotedName "\"\"\"" ++ ".").toList 3 = some e ∧
      undoubled '"' ((("E'\"" ++ quotedName "\"\"\"" ++ ".").toList.take (e - 1)).drop 4) =
        ['"', '"', '"']) ∧
    qualified .standard (.text "s\".\"t") (optionValue .text (some "")) ≠
      qualified .standard (.text "t") (optionValue .text (some "s")) := by
  obtain ⟨hregion, -, hreferences⟩ := quoted_names_read_back
  obtain ⟨hend, hinside⟩ := hregion "\"\"\"" "E'\"" "."
  have hafter : ".".toList.head? ≠ some '"' := by decide
  have hclosed := hend.mpr hafter
  refine ⟨⟨_, hclosed, hinside _ hafter hclosed⟩, fun h => ?_⟩
  have htable := ((hreferences _ _ _ _).2.mp h).1
  exact absurd htable (by decide)

end PgWrite
