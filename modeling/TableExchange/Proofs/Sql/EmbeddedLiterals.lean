import TableExchange.Proofs.Sql.LiteralGrammar
import TableExchange.Proofs.Text.ByteOrder
import TableExchange.Split.Key
import TableExchange.Sql.Statement

/-!
# Keys and names in statements

Keys and the names of tables stand in statements as literals. Whatever they are, each literal is
read as the text it was written for, and ends where it was written to end.

* `Dialect.literalRule`: the rule of a dialect.
* `TextLiteral.Embeds`: a statement with literals of some texts and no other quotes.
* `Sql.NamesTable`, `Sql.namesTable_splitName`: schema and name of a table.
* `Sql.embeds_primaryKey`: the literals of a catalog query.
* `Dialect.literals_read_back`: the literals of keys and of names.
-/

namespace TableExchange

/-- The rule by which a dialect reads its literals. In MySQL alone the backslash escapes. -/
def Dialect.literalRule : Dialect → EscapeRule
  | .mySql => .quoteAndBackslash
  | _ => .quoteOnly

theorem Dialect.features_escape (d : Dialect) : d.features.escape = d.literalRule := by
  cases d <;> rfl

namespace TextLiteral

variable {rule : EscapeRule} {texts : List String}

/-- A statement whose quotes are all those of the literals of some texts, in order. What is read
where such a literal stands is its text, and all that follows it. -/
inductive Embeds (rule : EscapeRule) : List Char → List String → Prop
  | words {cs : List Char} (h : quote ∉ cs) : Embeds rule cs []
  | literal {before after : List Char} {text : String} {texts : List String}
    (hbefore : quote ∉ before)
    (hreads : ∀ read rest, Reads rule ((write rule text).toList ++ after) read rest ↔
      read = text.toList ∧ rest = after)
    (h : Embeds rule after texts) :
    Embeds rule (before ++ ((write rule text).toList ++ after)) (text :: texts)

/-- Words without quotes may stand in front. -/
theorem Embeds.prepend {words cs : List Char} (h : Embeds rule cs texts) (hwords : quote ∉ words) :
    Embeds rule (words ++ cs) texts := by
  cases h with
  | words hcs => exact .words (by simp [hwords, hcs])
  | literal hbefore hreads h =>
    rw [← List.append_assoc]
    exact .literal (by simp [hwords, hbefore]) hreads h

/-- Words whose bytes hold no quote. This is decided sooner than the same of the characters, which
are read from the bytes. -/
def HasNoQuote (words : String) : Prop := quote.toUInt8 ∉ utf8Bytes words

instance (words : String) : Decidable (HasNoQuote words) :=
  inferInstanceAs (Decidable (quote.toUInt8 ∉ utf8Bytes words))

theorem HasNoQuote.quote_not_mem {words : String} (h : HasNoQuote words) :
    quote ∉ words.toList := by
  intro hquote
  refine h ?_
  rw [utf8Bytes_eq_flatMap]
  exact List.mem_flatMap.2 ⟨quote, hquote, by decide⟩

variable {before after : String}

theorem Embeds.words_append {words : String} (h : Embeds rule after.toList texts)
    (hwords : HasNoQuote words) : Embeds rule (words ++ after).toList texts := by
  rw [String.toList_append]
  exact h.prepend hwords.quote_not_mem

/-- Words, a literal, and what follows it. -/
theorem Embeds.literal_append (h : Embeds rule after.toList texts) (text : String)
    (hbefore : HasNoQuote before) (hafter : after.toList.head? ≠ some quote) :
    Embeds rule (before ++ (write rule text ++ after)).toList (text :: texts) := by
  rw [String.toList_append, String.toList_append]
  exact .literal hbefore.quote_not_mem (fun _ _ => reads_write_iff rule text hafter) h

/-- Words, a literal if there is a text for it, or else other words, and what follows. -/
theorem Embeds.optional_append {current : String} (h : Embeds rule after.toList texts)
    (text : Option String) (hbefore : HasNoQuote before) (hcurrent : HasNoQuote current)
    (hafter : after.toList.head? ≠ some quote) :
    Embeds rule (before ++ ((text.map (write rule)).getD current ++ after)).toList
      (text.toList ++ texts) := by
  cases text with
  | none =>
    rw [String.toList_append, String.toList_append]
    exact (h.prepend hcurrent.quote_not_mem).prepend hbefore.quote_not_mem
  | some text => exact h.literal_append text hbefore hafter

end TextLiteral

namespace Sql

open TextLiteral

/-- The name of a table is the name alone, or stands behind a schema and a point. -/
inductive NamesTable : String → Option String → String → Prop
  | plain {name : String} (h : '.' ∉ name.toList) : NamesTable name none name
  | qualified {schema : String} (name : String) (h : '.' ∉ schema.toList) :
    NamesTable (schema ++ "." ++ name) (some schema) name

theorem namesTable_splitName (table : String) :
    NamesTable table (splitName table).1 (splitName table).2 := by
  by_cases hpoint : '.' ∈ table.toList
  · obtain ⟨schema, name, htable, hschema⟩ := List.eq_append_cons_of_mem hpoint
    have hkept : ∀ c ∈ schema, (c != '.') = true := fun c hc => by
      simpa using ne_of_mem_of_not_mem hc hschema
    have hsplit : splitName table = (some (String.ofList schema), String.ofList name) := by
      simp [splitName, htable, List.takeWhile_append_of_pos hkept,
        List.dropWhile_append_of_pos hkept]
    have hwhole : table = String.ofList schema ++ "." ++ String.ofList name := by
      rw [← String.toList_inj, htable]
      simp
    rw [hsplit, hwhole]
    exact .qualified _ (by simpa using hschema)
  · have hsplit : splitName table = (none, table) := by simp [splitName, hpoint]
    rw [hsplit]
    exact .plain hpoint

/-- The literals of the query for the primary key of a table, in order; `none` if a dialect has no
such query. -/
def catalogLiterals (schema : Option String) (name : String) : Dialect → Option (List String)
  | .mySql => some (schema.toList ++ [name, "PRI"])
  | .postgreSql => some (schema.toList ++ [name])
  | .sqlServer => some (schema.toList ++ [name, "PRIMARY KEY"])
  | .clickHouse => some (schema.toList ++ [name])
  | .oracle => some ("P" :: name :: (schema.toList ++ []))
  | .db2 | .generic | .hive | .impala | .presto | .sqlite | .trino => none

/-- The query for the primary key of a table is made of words and of these literals. -/
theorem embeds_primaryKey (d : Dialect) (table : String) :
    Option.Rel (fun sql texts => Embeds d.literalRule sql.toList texts) (primaryKey d table)
      (catalogLiterals (splitName table).1 (splitName table).2 d) := by
  generalize hname : splitName table = parts
  obtain ⟨schema, name⟩ := parts
  -- each query is put together from its end
  have hlast {words : String} (h : HasNoQuote words) : Embeds d.literalRule words.toList [] :=
    .words h.quote_not_mem
  have hend : Embeds d.literalRule "".toList [] := hlast (by decide)
  cases d with
  | mySql =>
    have hkey : " AND COLUMN_KEY = 'PRI'" =
      " AND COLUMN_KEY = " ++ (write .quoteAndBackslash "PRI" ++ "") := by decide
    rw [primaryKey, hname]
    simp only [String.append_assoc, hkey]
    refine .some (.optional_append (.literal_append (.literal_append hend "PRI" (by decide) ?_)
      name (by decide) ?_) schema (by decide) (by decide) ?_)
    -- the words between the literals do not begin with a quote
    all_goals simp [quote]
  | postgreSql =>
    rw [primaryKey, hname]
    simp only [String.append_assoc]
    refine .some (.words_append (.words_append (.words_append (.optional_append
      (.literal_append (hlast (by decide)) name (by decide) ?_) schema (by decide) (by decide) ?_)
      (by decide)) (by decide)) (by decide))
    all_goals simp [quote]
  | sqlServer =>
    have hkey : " AND tc.CONSTRAINT_TYPE = 'PRIMARY KEY'" =
      " AND tc.CONSTRAINT_TYPE = " ++ (write .quoteOnly "PRIMARY KEY" ++ "") := by decide
    rw [primaryKey, hname]
    simp only [String.append_assoc, hkey]
    refine .some (.words_append (.words_append (.words_append (.words_append (.optional_append
      (.literal_append (.literal_append hend "PRIMARY KEY" (by decide) ?_) name (by decide) ?_)
      schema (by decide) (by decide) ?_) (by decide)) (by decide)) (by decide)) (by decide))
    all_goals simp [quote]
  | clickHouse =>
    rw [primaryKey, hname]
    simp only [String.append_assoc]
    refine .some (.optional_append (.literal_append (hlast (by decide)) name (by decide) ?_)
      schema (by decide) (by decide) ?_)
    all_goals simp [quote]
  | oracle =>
    have hkey : "AND ALL_CONSTRAINTS.CONSTRAINT_TYPE = 'P' AND ALL_CONS_COLUMNS.TABLE_NAME = " =
      "AND ALL_CONSTRAINTS.CONSTRAINT_TYPE = " ++
        (write .quoteOnly "P" ++ " AND ALL_CONS_COLUMNS.TABLE_NAME = ") := by decide
    rw [primaryKey, hname]
    simp only [String.append_assoc, hkey]
    refine .some (.words_append (.words_append (.literal_append (.literal_append (.optional_append
      (hlast (by decide)) schema (by decide) (by decide) ?_) name (by decide) ?_) "P" (by decide)
      ?_) (by decide)) (by decide))
    all_goals simp [quote]
  | _ => exact .none

end Sql

open TextLiteral in
/-- Literals cannot be escaped from. What is read where a key stands as a literal is the key, and
all that follows the literal; so two keys have two literals. In the query for the primary key of a
table it is the same with the names of the table and of its schema, and no other quotes stand
there. -/
theorem Dialect.literals_read_back (d : Dialect) :
    (∀ (key : String) (after : List Char), after.head? ≠ some quote → ∀ read rest,
      Reads d.literalRule (((SplitPoint.text key).operand d).render.toList ++ after) read rest ↔
        read = key.toList ∧ rest = after) ∧
    (Function.Injective fun key => ((SplitPoint.text key).operand d).render) ∧
    ∀ table, ∃ schema name, Sql.NamesTable table schema name ∧
      Option.Rel (fun sql texts => Embeds d.literalRule sql.toList texts) (Sql.primaryKey d table)
        (Sql.catalogLiterals schema name d) := by
  have hrender (key : String) :
      ((SplitPoint.text key).operand d).render = write d.literalRule key := by
    rw [← d.features_escape]
    rfl
  refine ⟨fun key after hafter read rest => ?_, fun a b hsame => ?_, fun table => ?_⟩
  · rw [hrender]
    exact reads_write_iff d.literalRule key hafter
  · simp only [hrender] at hsame
    exact write_injective d.literalRule hsame
  · exact ⟨_, _, Sql.namesTable_splitName table, Sql.embeds_primaryKey d table⟩

/-- In MySQL a key that holds a quote and ends in a backslash is read back whole. -/
theorem Dialect.literals_read_back_mySql :
    " AND id < 9".toList.head? ≠ some TextLiteral.quote ∧
    ((SplitPoint.text "it's \\").operand .mySql).render = "'it''s \\\\'" ∧
    TextLiteral.Reads .quoteAndBackslash ("'it''s \\\\'".toList ++ " AND id < 9".toList)
      "it's \\".toList " AND id < 9".toList := by
  have hafter : " AND id < 9".toList.head? ≠ some TextLiteral.quote := by decide
  have hread := (Dialect.literals_read_back .mySql).1 "it's \\" " AND id < 9".toList hafter
  have hrender : ((SplitPoint.text "it's \\").operand .mySql).render = "'it''s \\\\'" := by decide
  rw [hrender] at hread
  exact ⟨hafter, hrender, (hread _ _).2 ⟨rfl, rfl⟩⟩

end TableExchange
