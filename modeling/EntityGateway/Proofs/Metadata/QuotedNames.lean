/-
Names in brackets and in double quotes.

A reference is torn at its last dot, whether that dot is quoted or not, and what is quoted is looked at only then. So a
quoted schema may have dots and blanks and a quoted name may have blanks, and both are read as they are; but no text
refers to an object with a dot in its name.

- `dot_not_mem_name`, `fits_dotless`: there is no dot in the name of a reference, nor in that of an object that it fits;
- `ofText_qualified`, `ofText_unqualified`: what quoted names without dots are read as;
- `quoted_names_are_read_back_iff`: when quoted names are read back, and fit the objects that they name.
-/
import EntityGateway.Metadata.Reference
import EntityGateway.Proofs.Text.Ends
import EntityGateway.Proofs.Unicode.Lowercase

namespace EntityGateway

/-! ## Dots -/

namespace ObjectRef

variable {schema name : String} {kind : ObjectKind} {defaultSchema : Option String}

theorem mem_of_mem_clean {c : Char} {cs : List Char} (h : c ∈ clean cs) : c ∈ cs :=
  Text.mem_of_mem_trimBoth (Text.mem_of_mem_trimBoth h)

/-- **No dot is in the name of a reference**, whatever it is written as -/
theorem dot_not_mem_name (s : String) (kind : ObjectKind) (defaultSchema : Option String) :
    '.' ∉ (ofText s kind defaultSchema).name.toList := by
  intro hdot
  unfold ofText at hdot
  by_cases hs : '.' ∈ s.toList
  · obtain ⟨before, after, hsplit, hafter⟩ := Text.exists_last hs
    rw [hsplit, Text.splitLast_append hafter] at hdot
    simp only [String.toList_ofList] at hdot
    exact hafter (mem_of_mem_clean hdot)
  · rw [Text.splitLast_eq_none hs] at hdot
    simp only [String.toList_ofList] at hdot
    exact hs (mem_of_mem_clean hdot)

theorem eq_dot_of_asciiLower {c : Char} (h : Unicode.asciiLower c = '.') : c = '.' := by
  unfold Unicode.asciiLower at h
  split_ifs at h with hupper
  · simp only [Bool.and_eq_true, decide_eq_true_eq, Char.le_def] at hupper
    obtain ⟨hle, -⟩ := hupper
    have hcode : c.toNat + 32 = 46 := Unicode.eq_of_ofNat_eq (by decide) h
    have hletter : 65 ≤ c.toNat := hle
    omega
  · exact h

/-- an object that a reference fits has no dot in its name -/
theorem fits_dotless {s : String} {o : DatabaseObject} (h : (ofText s kind defaultSchema).fits o = true) :
    '.' ∉ o.name.toList := by
  intro hdot
  simp only [fits, Unicode.eqIgnoringAsciiCase, Bool.and_eq_true, beq_iff_eq] at h
  have hlower : '.' ∈ o.name.toList.map Unicode.asciiLower := List.mem_map.2 ⟨'.', hdot, rfl⟩
  rw [h.1] at hlower
  obtain ⟨c, hc, hsame⟩ := List.mem_map.1 hlower
  obtain rfl := eq_dot_of_asciiLower hsame
  exact dot_not_mem_name s kind defaultSchema hc

theorem fits_of_eq {r : ObjectRef} {o : DatabaseObject} (hschema : o.schema = r.schema) (hname : o.name = r.name) :
    r.fits o = true := by
  unfold fits Unicode.eqIgnoringAsciiCase
  rw [hschema, hname]
  cases hr : r.schema with
  | none => simp [schemasFit]
  | some schema => simp [schemasFit, Unicode.eqIgnoringAsciiCase]

end ObjectRef

/-! ## Quoted names -/

/-- how a name can be quoted -/
inductive Quotation where
  | brackets
  | doubleQuotes
deriving DecidableEq, Repr

namespace Quotation

def opening : Quotation → Char
  | .brackets => '['
  | .doubleQuotes => '"'

def closing : Quotation → Char
  | .brackets => ']'
  | .doubleQuotes => '"'

def quote (q : Quotation) (name : String) : String := String.ofList (q.opening :: (name.toList ++ [q.closing]))

end Quotation

/-- a name without brackets and double quotes -/
def Quotable (name : String) : Prop := ∀ c ∈ name.toList, c ≠ '[' ∧ c ≠ ']' ∧ c ≠ '"'

instance (name : String) : Decidable (Quotable name) := List.decidableBAll _ _

namespace ObjectRef

variable {schema name : String}

theorem isDelimiter_opening (q : Quotation) : isDelimiter q.opening = true := by cases q <;> rfl

theorem isDelimiter_closing (q : Quotation) : isDelimiter q.closing = true := by cases q <;> rfl

theorem not_isBlank_opening (q : Quotation) : Unicode.isBlank q.opening = false := by cases q <;> rfl

theorem not_isBlank_closing (q : Quotation) : Unicode.isBlank q.closing = false := by cases q <;> rfl

theorem not_isDelimiter (h : Quotable name) : ∀ c ∈ name.toList, isDelimiter c = false := by
  intro c hc
  obtain ⟨hopen, hclose, hquote⟩ := h c hc
  simp [isDelimiter, hopen, hclose, hquote]

/-- quotation is taken off as a whole, with blanks and dots left as they are -/
theorem clean_quote (q : Quotation) (h : Quotable name) : clean (q.quote name).toList = name.toList := by
  unfold clean Quotation.quote
  rw [String.toList_ofList, Text.trimBoth_of_ends (not_isBlank_opening q) (not_isBlank_closing q),
    Text.trimBoth_between (isDelimiter_opening q) (isDelimiter_closing q) (not_isDelimiter h)]

theorem dot_not_mem_quote (q : Quotation) (h : '.' ∉ name.toList) : '.' ∉ (q.quote name).toList := by
  unfold Quotation.quote
  rw [String.toList_ofList]
  cases q <;> simpa [Quotation.opening, Quotation.closing] using h

theorem ofText_qualified (q q' : Quotation) (hschema : Quotable schema) (hname : Quotable name)
    (hdot : '.' ∉ name.toList) (kind : ObjectKind) (defaultSchema : Option String) :
    ofText (q.quote schema ++ "." ++ q'.quote name) kind defaultSchema = ⟨some schema, name, kind⟩ := by
  have hsplit : Text.splitLast '.' (q.quote schema ++ "." ++ q'.quote name).toList =
      some ((q.quote schema).toList, (q'.quote name).toList) := by
    rw [String.toList_append, String.toList_append, List.append_assoc]
    exact Text.splitLast_append (dot_not_mem_quote q' hdot)
  unfold ofText
  rw [hsplit]
  simp only [clean_quote q hschema, clean_quote q' hname, String.ofList_toList]

theorem ofText_unqualified (q : Quotation) (hname : Quotable name) (hdot : '.' ∉ name.toList) (kind : ObjectKind)
    (defaultSchema : Option String) : ofText (q.quote name) kind defaultSchema = ⟨defaultSchema, name, kind⟩ := by
  unfold ofText
  rw [Text.splitLast_eq_none (dot_not_mem_quote q hdot)]
  simp only [clean_quote q hname, String.ofList_toList]

/-- a text that is read as some schema and name if there is no dot in the name is so read, and fits the object of that
schema and name, in no other case -/
theorem read_and_fits_iff {s : String} {kind : ObjectKind} {defaultSchema schema? : Option String}
    (h : '.' ∉ name.toList → ofText s kind defaultSchema = ⟨schema?, name, kind⟩) :
    (ofText s kind defaultSchema = ⟨schema?, name, kind⟩ ↔ '.' ∉ name.toList) ∧
    ∀ o : DatabaseObject, o.schema = schema? → o.name = name →
      ((ofText s kind defaultSchema).fits o = true ↔ '.' ∉ name.toList) := by
  refine ⟨⟨?_, h⟩, ?_⟩
  · intro hread
    have hdotless := dot_not_mem_name s kind defaultSchema
    rwa [hread] at hdotless
  · intro o hschema hname
    constructor
    · intro hfits
      exact hname ▸ fits_dotless hfits
    · intro hdot
      rw [h hdot]
      exact fits_of_eq hschema hname

/-- **When quoted names are read back**: with a schema and without, and so that they fit the object of that schema and
name, if and only if there is no dot in the name -/
theorem quoted_names_are_read_back_iff (q q' : Quotation) (hschema : Quotable schema) (hname : Quotable name)
    (kind : ObjectKind) (defaultSchema : Option String) :
    (ofText (q.quote schema ++ "." ++ q'.quote name) kind defaultSchema = ⟨some schema, name, kind⟩ ↔
      '.' ∉ name.toList) ∧
    (ofText (q'.quote name) kind defaultSchema = ⟨defaultSchema, name, kind⟩ ↔ '.' ∉ name.toList) ∧
    (∀ o : DatabaseObject, o.schema = some schema → o.name = name →
      ((ofText (q.quote schema ++ "." ++ q'.quote name) kind defaultSchema).fits o = true ↔ '.' ∉ name.toList)) ∧
    ∀ o : DatabaseObject, o.schema = defaultSchema → o.name = name →
      ((ofText (q'.quote name) kind defaultSchema).fits o = true ↔ '.' ∉ name.toList) := by
  obtain ⟨hread, hfits⟩ :=
    read_and_fits_iff fun hdot => ofText_qualified q q' hschema hname hdot kind defaultSchema
  obtain ⟨hread', hfits'⟩ := read_and_fits_iff fun hdot => ofText_unqualified q' hname hdot kind defaultSchema
  exact ⟨hread, hread', hfits, hfits'⟩

/-- a schema with a dot and a name with a blank -/
theorem order_items_are_read_back :
    Quotable "shop.eu" ∧ Quotable "order items" ∧
    Quotation.brackets.quote "shop.eu" ++ "." ++ Quotation.doubleQuotes.quote "order items" =
      "[shop.eu].\"order items\"" ∧
    ofText "[shop.eu].\"order items\"" .table none = ⟨some "shop.eu", "order items", .table⟩ := by
  have hschema : Quotable "shop.eu" := by decide
  have hname : Quotable "order items" := by decide
  exact ⟨hschema, hname, rfl,
    (quoted_names_are_read_back_iff .brackets .doubleQuotes hschema hname .table none).1.2 (by decide)⟩

/-- **A quoted name with a dot is torn**, and its schema keeps brackets -/
theorem dotted_name_is_torn :
    Quotable "dbo" ∧ Quotable "order.items" ∧
    Quotation.brackets.quote "dbo" ++ "." ++ Quotation.brackets.quote "order.items" = "[dbo].[order.items]" ∧
    ofText "[dbo].[order.items]" .table none = ⟨some "dbo].[order", "items", .table⟩ ∧
    (ofText "[dbo].[order.items]" .table none).fits { schema := some "dbo", name := "order.items" } = false :=
  ⟨by decide, by decide, rfl, rfl, rfl⟩

end ObjectRef

end EntityGateway
