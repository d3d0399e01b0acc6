/-
# Renderers in use again

Every call of a renderer starts with an empty text, but the enum types of the lists that
were rendered before stay known, also after a reset.  Nothing else is remembered:

* `Renderer.exists_calls_eq` : what calls leave of a renderer;
* `Profile.statementTexts_congr` : a statement depends on known enum types only by the
  types of its columns;
* `Renderer.render_calls_iff` : when a used renderer gives the results of a new one.

A column whose type an earlier list declared is written with the values of that list
(`Renderer.render_moodCalls_ne`).
-/
import SchemaDdl.Proofs.Ddl.Writing
import SchemaDdl.Proofs.Traversal

namespace SchemaDdl

/-! ## Known enum types -/

namespace KnownEnums

/-- Enum types that are added in two goes are added in a row. -/
theorem add_append (known : KnownEnums) (first second : List EnumType) :
    known.add (first ++ second) = (known.add first).add second := by
  rw [add, add, add, List.reverse_append, List.append_assoc]

/-- An enum type that is added hides those of its name that were known before. -/
theorem values?_add (known : KnownEnums) (enums : List EnumType) (name : String) :
    (known.add enums).values? name =
      if name ∈ enums.map EnumType.name then values? enums.reverse name
      else known.values? name := by
  unfold values? add findEnum?
  rw [List.find?_append]
  cases hfound : enums.reverse.find? (·.name == name) with
  | none =>
    have hmissing : name ∉ enums.map EnumType.name := by
      rintro hadded
      obtain ⟨e, he, rfl⟩ := List.mem_map.mp hadded
      have hnot := List.find?_eq_none.mp hfound e (List.mem_reverse.mpr he)
      exact hnot (beq_self_eq_true e.name)
    rw [if_neg hmissing, Option.none_or]
  | some e =>
    have hname := List.find?_some hfound
    have hmem := List.mem_reverse.mp (List.mem_of_find?_eq_some hfound)
    have hadded : name ∈ enums.map EnumType.name :=
      List.mem_map.mpr ⟨e, hmem, beq_iff_eq.mp hname⟩
    rw [if_pos hadded, Option.some_or]

end KnownEnums

/-! ## Statements by the types of their columns -/

/-- The columns that a statement defines. -/
def Statement.columns : Statement → List Column
  | .createTable t => t.columns
  | .column c => [c]
  | .alterTable a => a.operations.filterMap AlterOperation.column?
  | _ => []

namespace Profile

/-- Columns of the given type are written alike, whichever of two lists of enum types is
known. -/
def WritesAlike (p : Profile) (known known' : KnownEnums) (dataType : String) : Prop :=
  ∀ c : Column, c.dataType = dataType → p.typeText known c = p.typeText known' c

variable {p : Profile} {known known' : KnownEnums}

/-- A column depends on known enum types by its type only. -/
theorem columnText_congr {c : Column} (h : p.WritesAlike known known' c.dataType) :
    p.columnText known c = p.columnText known' c := by
  unfold columnText
  rw [h c rfl]

/-- An operation depends on known enum types by the type of its column only. -/
theorem alterOperation_congr (table : String) {operation : AlterOperation}
    (h : ∀ c ∈ operation.column?, p.WritesAlike known known' c.dataType) :
    p.alterOperation known table operation = p.alterOperation known' table operation := by
  cases operation with
  | addColumn c =>
    have hcolumn : p.columnText known c = p.columnText known' c := columnText_congr (h c rfl)
    rw [alterOperation, alterOperation, addColumn, addColumn, hcolumn]
  | dropColumn name => rfl
  | modifyColumn c =>
    -- Without its keys a column has the same type.
    have hkeys : p.columnText known c.withoutKeys = p.columnText known' c.withoutKeys :=
      columnText_congr (h c rfl)
    rw [alterOperation, alterOperation, modifyColumn, modifyColumn, hkeys]

/-- A statement depends on known enum types by the types of its columns only. -/
theorem statementTexts_congr {s : Statement}
    (h : ∀ c ∈ s.columns, p.WritesAlike known known' c.dataType) :
    p.statementTexts known s = p.statementTexts known' s := by
  cases s with
  | createTable t =>
    have hcolumns : t.columns.map (p.columnText known) = t.columns.map (p.columnText known') :=
      List.map_congr_left fun c hc => columnText_congr (h c hc)
    rw [statementTexts, statementTexts, createTable, createTable, tableLines, tableLines, hcolumns]
  | column c =>
    have hcolumn : p.columnText known c = p.columnText known' c :=
      columnText_congr (h c (List.mem_singleton_self c))
    rw [statementTexts, statementTexts, hcolumn]
  | alterTable a =>
    have hoperations : a.operations.mapM (p.alterOperation known a.table) =
        a.operations.mapM (p.alterOperation known' a.table) :=
      mapM_congr_of_mem fun operation hoperation => alterOperation_congr a.table fun c hc =>
        h c (List.mem_filterMap.mpr ⟨operation, hoperation, hc⟩)
    rw [statementTexts, statementTexts, alterTable, alterTable, hoperations]
  | constraint c => rfl
  | createIndex i => rfl
  | enumType e => rfl
  | comment text => rfl

end Profile

/-- The type of a column depends on the values of the enum type of this name only, and in
PostgreSQL not even on these. -/
theorem Dialect.writesAlike {d : Dialect} {known known' : KnownEnums} {dataType : String}
    (h : d.isMysqlFamily = true → known.values? dataType = known'.values? dataType) :
    d.profile.WritesAlike known known' dataType := by
  have hmysql : known.values? dataType = known'.values? dataType →
      Profile.mysql.WritesAlike known known' dataType := by
    rintro hvalues c rfl
    show Profile.mysqlType known c = Profile.mysqlType known' c
    unfold Profile.mysqlType
    rw [hvalues]
  cases d with
  | postgres => exact fun c _ => rfl
  | mysql => exact hmysql (h rfl)
  | mariadb => exact hmysql (h rfl)

/-- A column whose type is among the enum types that are added last is written with these,
and any other column as before. -/
theorem Dialect.typeText_add (d : Dialect) (known : KnownEnums) (enums : List EnumType)
    (c : Column) :
    d.profile.typeText (known.add enums) c =
      if c.dataType ∈ enums.map EnumType.name then d.profile.typeText (KnownEnums.add [] enums) c
      else d.profile.typeText known c := by
  split
  · rename_i hadded
    refine Dialect.writesAlike (fun _ => ?_) c rfl
    rw [KnownEnums.values?_add, KnownEnums.values?_add, if_pos hadded, if_pos hadded]
  · rename_i hother
    refine Dialect.writesAlike (fun _ => ?_) c rfl
    rw [KnownEnums.values?_add, if_neg hother]

/-! ## What writing depends on -/

/-- A walk takes the same way by steps that agree on its statements. -/
theorem walk_congr {σ : Type} {step step' : σ → Statement → Except Failure σ}
    {numbered : List (Statement × Nat)}
    (h : ∀ s ∈ numbered, ∀ state, step state s.1 = step' state s.1) (state : σ) :
    walk step state numbered = walk step' state numbered := by
  induction numbered generalizing state with
  | nil => rfl
  | cons s rest ih =>
    rw [walk, walk, h s (by simp)]
    cases step' state s.1 with
    | error cause => rfl
    | ok next => exact ih (fun s' hs' => h s' (by simp [hs'])) next

namespace Renderer

/-- Adds the texts of a statement to a text. -/
def appendTexts (texts : Statement → Except Failure (List String)) (output : String)
    (s : Statement) : Except Failure String :=
  (texts s).map (output ++ terminated ·)

/-- Writing changes nothing but the text, and depends on a renderer by its text and by what
it makes of each statement only. -/
theorem writeNumbered_eq (r : Renderer) (numbered : List (Statement × Nat)) :
    r.writeNumbered numbered =
      (walk (appendTexts (r.profile.statementTexts r.known)) r.output numbered).map
        (fun output => { r with output := output }) id := by
  unfold writeNumbered
  -- Each statement is written by a renderer with the text so far.
  induction numbered generalizing r with
  | nil => rfl
  | cons s rest ih =>
    have hwrite : r.write s.1 =
        (appendTexts (r.profile.statementTexts r.known) r.output s.1).map
          fun output => { r with output := output } := by
      unfold write appendTexts
      cases r.profile.statementTexts r.known s.1 <;> rfl
    rw [walk, walk, hwrite]
    cases appendTexts (r.profile.statementTexts r.known) r.output s.1 with
    | error cause => rfl
    | ok output => exact ih { r with output := output }

/-- Writing keeps the profile and the enum types that are known. -/
theorem fst_writeNumbered_eq (r : Renderer) (numbered : List (Statement × Nat)) :
    (r.writeNumbered numbered).1 = { r with output := (r.writeNumbered numbered).1.output } := by
  rw [writeNumbered_eq]
  rfl

/-- A renderer that has written keeps its profile and the enum types that it knows. -/
theorem eq_of_writeNumbered {r next : Renderer} {numbered : List (Statement × Nat)}
    {result : Except Failure Unit} (h : r.writeNumbered numbered = (next, result)) :
    next = { r with output := next.output } := by
  have hkept := r.fst_writeNumbered_eq numbered
  rw [h] at hkept
  exact hkept

/-- Renderers that make the same of each statement add the same texts and fail alike. -/
theorem writeNumbered_congr {r r' : Renderer} {numbered : List (Statement × Nat)}
    (houtput : r.output = r'.output)
    (h : ∀ s ∈ numbered,
      r.profile.statementTexts r.known s.1 = r'.profile.statementTexts r'.known s.1) :
    (r.writeNumbered numbered).1.output = (r'.writeNumbered numbered).1.output ∧
      (r.writeNumbered numbered).2 = (r'.writeNumbered numbered).2 := by
  have hwalk : walk (appendTexts (r.profile.statementTexts r.known)) r.output numbered =
      walk (appendTexts (r'.profile.statementTexts r'.known)) r'.output numbered := by
    rw [houtput]
    refine walk_congr (fun s hs output => ?_) r'.output
    rw [appendTexts, appendTexts, h s hs]
  rw [writeNumbered_eq, writeNumbered_eq, hwalk]
  exact ⟨rfl, rfl⟩

/-- What is written alike has the same outcome. -/
theorem snd_withOutput_writeNumbered_congr {r r' : Renderer} {numbered : List (Statement × Nat)}
    (houtput : r.output = r'.output)
    (h : ∀ s ∈ numbered,
      r.profile.statementTexts r.known s.1 = r'.profile.statementTexts r'.known s.1) :
    (withOutput (r.writeNumbered numbered)).2 = (withOutput (r'.writeNumbered numbered)).2 := by
  obtain ⟨htext, hresult⟩ := writeNumbered_congr houtput h
  rw [withOutput, withOutput, htext, hresult]

/-! ## Rendering -/

section Congruence

variable {r r' : Renderer} {statements : List Statement}
  (h : ∀ s ∈ statements,
    r.profile.statementTexts (r.known.add (declaredEnums statements)) s =
      r'.profile.statementTexts (r'.known.add (declaredEnums statements)) s)

include h

/-- Renderers that make the same of each statement render the same. -/
theorem snd_render_congr : (r.render statements).2 = (r'.render statements).2 :=
  snd_withOutput_writeNumbered_congr rfl fun _ hs => h _ (List.fst_mem_of_mem_zipIdx hs)

/-- Renderers that make the same of each statement render the same with the enum types
first. -/
theorem snd_renderEnumsFirst_congr :
    (r.renderEnumsFirst statements).2 = (r'.renderEnumsFirst statements).2 := by
  let start := r.reset.withEnums (declaredEnums statements)
  let start' := r'.reset.withEnums (declaredEnums statements)
  let enums := statements.zipIdx.filter (·.1.isEnum)
  have hfirst : (start.writeNumbered enums).1.output = (start'.writeNumbered enums).1.output ∧
      (start.writeNumbered enums).2 = (start'.writeNumbered enums).2 :=
    writeNumbered_congr rfl fun s hs =>
      h s.1 (List.fst_mem_of_mem_zipIdx (List.mem_of_mem_filter hs))
  unfold renderEnumsFirst
  dsimp only
  rcases hnext : start.writeNumbered enums with ⟨next, result⟩
  rcases hnext' : start'.writeNumbered enums with ⟨next', result'⟩
  rw [hnext, hnext'] at hfirst
  obtain ⟨houtput, rfl⟩ : next.output = next'.output ∧ result = result' := hfirst
  cases result with
  | error cause => rfl
  | ok done =>
    -- The others are written by renderers that differ in the enum types they know only.
    refine snd_withOutput_writeNumbered_congr (congrArg (· ++ _) houtput) fun s hs => ?_
    rw [eq_of_writeNumbered hnext, eq_of_writeNumbered hnext']
    exact h s.1 (List.fst_mem_of_mem_zipIdx (List.mem_of_mem_filter hs))

/-- Renderers that make the same of each statement render the same schema. -/
theorem snd_renderSchema_congr (hfirst : r.profile.enumsFirst = r'.profile.enumsFirst) :
    (r.renderSchema statements).2 = (r'.renderSchema statements).2 := by
  unfold renderSchema
  rw [hfirst]
  split
  · exact snd_renderEnumsFirst_congr h
  · exact snd_render_congr h

end Congruence

end Renderer

/-! ## Calls in a row -/

/-- A call of a renderer. -/
inductive RenderCall where
  | render (statements : List Statement)
  | renderSchema (statements : List Statement)
  | renderStatement (statement : Statement)
  | reset
  deriving DecidableEq, Repr

/-- The enum types that a call makes known. -/
def RenderCall.enums : RenderCall → List EnumType
  | .render statements => declaredEnums statements
  | .renderSchema statements => declaredEnums statements
  | .renderStatement _ => []
  | .reset => []

/-- The enum types that calls make known, from first to last. -/
def RenderCall.allEnums (history : List RenderCall) : List EnumType :=
  history.flatMap RenderCall.enums

namespace Renderer

/-- The renderer after a call, whether the call succeeds or fails. -/
def call (r : Renderer) : RenderCall → Renderer
  | .render statements => (r.render statements).1
  | .renderSchema statements => (r.renderSchema statements).1
  | .renderStatement s => (r.renderStatement s).1
  | .reset => r.reset

/-- The renderer after calls from first to last. -/
def calls (r : Renderer) (history : List RenderCall) : Renderer :=
  history.foldl call r

/-- Rendering leaves some text and the enum types of the statements. -/
theorem exists_fst_render_eq (r : Renderer) (statements : List Statement) :
    ∃ output, (r.render statements).1 =
      { r.withEnums (declaredEnums statements) with output := output } := by
  let start := r.reset.withEnums (declaredEnums statements)
  exact ⟨_, start.fst_writeNumbered_eq statements.zipIdx⟩

/-- Rendering with the enum types first leaves some text and the enum types of the
statements. -/
theorem exists_fst_renderEnumsFirst_eq (r : Renderer) (statements : List Statement) :
    ∃ output, (r.renderEnumsFirst statements).1 =
      { r.withEnums (declaredEnums statements) with output := output } := by
  unfold renderEnumsFirst
  dsimp only
  split
  · rename_i next failure hnext
    have hkept := eq_of_writeNumbered hnext
    exact ⟨next.output, hkept⟩
  · rename_i next hnext
    -- The others are written below the enum types and, maybe, a blank line.
    generalize next.output ++ _ = text
    have hothers := { next with output := text }.fst_writeNumbered_eq
      (statements.zipIdx.filter (!·.1.isEnum))
    rw [eq_of_writeNumbered hnext] at hothers ⊢
    exact ⟨_, hothers⟩

/-- A call leaves some text and the enum types that it makes known. -/
theorem exists_call_eq (r : Renderer) (made : RenderCall) :
    ∃ output, r.call made = { r.withEnums made.enums with output := output } := by
  cases made with
  | render statements => exact r.exists_fst_render_eq statements
  | renderSchema statements =>
    unfold call renderSchema
    dsimp only
    split
    · exact r.exists_fst_renderEnumsFirst_eq statements
    · exact r.exists_fst_render_eq statements
  | renderStatement s =>
    unfold call renderStatement write
    dsimp only
    cases r.reset.profile.statementTexts r.reset.known s with
    | error cause => exact ⟨"", rfl⟩
    | ok texts => exact ⟨_, rfl⟩
  | reset => exact ⟨"", rfl⟩

/-- **What a renderer remembers.**  Calls leave some text and the enum types that they make
known, and nothing else. -/
theorem exists_calls_eq (r : Renderer) (history : List RenderCall) :
    ∃ output, r.calls history =
      { r.withEnums (RenderCall.allEnums history) with output := output } := by
  unfold calls RenderCall.allEnums
  induction history generalizing r with
  | nil => exact ⟨r.output, rfl⟩
  | cons made rest ih =>
    obtain ⟨text, hcall⟩ := r.exists_call_eq made
    obtain ⟨output, hrest⟩ := ih (r.call made)
    refine ⟨output, ?_⟩
    rw [List.foldl_cons, hrest, hcall, List.flatMap_cons, withEnums, withEnums, withEnums,
      KnownEnums.add_append]

/-! ## Rendering after other calls -/

/-- After calls a renderer renders like a new one that knows the enum types of the calls. -/
theorem render_calls (r : Renderer) (history : List RenderCall) (statements : List Statement) :
    (r.calls history).render statements =
        (r.withEnums (RenderCall.allEnums history)).render statements ∧
      (r.calls history).renderSchema statements =
        (r.withEnums (RenderCall.allEnums history)).renderSchema statements := by
  obtain ⟨output, hcalls⟩ := r.exists_calls_eq history
  rw [hcalls]
  -- Both start from an empty text.
  exact ⟨rfl, rfl⟩

/-- After the calls the statements are rendered as they are by a new renderer. -/
def RendersAsNew (d : Dialect) (history : List RenderCall) (statements : List Statement) : Prop :=
  (((ofDialect d).calls history).render statements).2 = ((ofDialect d).render statements).2 ∧
    (((ofDialect d).calls history).renderSchema statements).2 =
      ((ofDialect d).renderSchema statements).2

/-- In the MySQL family the statements declare each enum type of their columns that was
declared by the calls. -/
def DeclaresOwn (d : Dialect) (history : List RenderCall) (statements : List Statement) : Prop :=
  d.isMysqlFamily = true → ∀ s ∈ statements, ∀ c ∈ s.columns,
    c.dataType ∈ (RenderCall.allEnums history).map EnumType.name →
      c.dataType ∈ (declaredEnums statements).map EnumType.name

/-- Statements render as new if the types that they do not declare themselves are written
as if there had been no calls. -/
theorem rendersAsNew_of_writesAlike {d : Dialect} {history : List RenderCall}
    {statements : List Statement}
    (h : ∀ s ∈ statements, ∀ c ∈ s.columns,
      c.dataType ∉ (declaredEnums statements).map EnumType.name →
        d.profile.WritesAlike (KnownEnums.add [] (RenderCall.allEnums history)) [] c.dataType) :
    RendersAsNew d history statements := by
  let own := declaredEnums statements
  let earlier := KnownEnums.add [] (RenderCall.allEnums history)
  have htexts : ∀ s ∈ statements, d.profile.statementTexts (earlier.add own) s =
      d.profile.statementTexts (KnownEnums.add [] own) s := by
    refine fun s hs => Profile.statementTexts_congr fun c hc c' hc' => ?_
    have hearlier := d.typeText_add earlier own c'
    have hnew := d.typeText_add [] own c'
    refine hearlier.trans (Eq.trans ?_ hnew.symm)
    split
    · rfl
    · rename_i hother
      exact h s hs c hc (hc' ▸ hother) c' hc'
  obtain ⟨hrender, hschema⟩ := (ofDialect d).render_calls history statements
  unfold RendersAsNew
  rw [hrender, hschema]
  exact ⟨snd_render_congr htexts, snd_renderSchema_congr htexts rfl⟩

/-- Statements render as new if they declare the enum types of their columns. -/
theorem rendersAsNew_of_declaresOwn {d : Dialect} {history : List RenderCall}
    {statements : List Statement} (h : DeclaresOwn d history statements) :
    RendersAsNew d history statements := by
  refine rendersAsNew_of_writesAlike fun s hs c hc hother => ?_
  refine Dialect.writesAlike fun hmysql => ?_
  -- What the statements do not declare was not declared before either.
  have hearlier : c.dataType ∉ (RenderCall.allEnums history).map EnumType.name :=
    fun hmem => hother (h hmysql s hs c hc hmem)
  rw [KnownEnums.values?_add, if_neg hearlier]

/-- A list of one column is rendered as the line of this column. -/
theorem snd_render_column (r : Renderer) (c : Column) :
    (r.render [.column c]).2 = .ok (r.profile.columnText r.known c ++ "\n") := by
  have hwritten : (r.render [.column c]).2 =
      .ok ("" ++ terminated [r.profile.columnText r.known c]) := rfl
  rw [hwritten]
  simp [terminated]

/-- Columns of one text have types of one text. -/
theorem typeText_eq_of_columnText_eq {p : Profile} {known known' : KnownEnums} {c : Column}
    (h : p.columnText known c = p.columnText known' c) :
    p.typeText known c = p.typeText known' c := by
  unfold Profile.columnText at h
  simpa only [String.append_left_inj, String.append_right_inj] using h

/-- **What a used renderer gives.**  After calls a renderer renders like a new one that knows
the enum types of the calls.  So statements that declare the enum types of their columns
render as new, and all statements do exactly if no column is written with an enum type of
the calls. -/
theorem render_calls_iff (d : Dialect) (history : List RenderCall) :
    (∀ statements,
      ((ofDialect d).calls history).render statements =
          ((ofDialect d).withEnums (RenderCall.allEnums history)).render statements ∧
        ((ofDialect d).calls history).renderSchema statements =
          ((ofDialect d).withEnums (RenderCall.allEnums history)).renderSchema statements) ∧
      (∀ statements, DeclaresOwn d history statements → RendersAsNew d history statements) ∧
      ((∀ statements, RendersAsNew d history statements) ↔
        ∀ c : Column, d.profile.typeText (KnownEnums.add [] (RenderCall.allEnums history)) c =
          d.profile.typeText [] c) := by
  refine ⟨(ofDialect d).render_calls history, fun _ => rendersAsNew_of_declaresOwn, ?_⟩
  constructor
  · -- A column on its own shows how its type is written.
    intro hnew c
    have hcolumn := (hnew [.column c]).1
    rw [((ofDialect d).render_calls history _).1, snd_render_column, snd_render_column,
      Except.ok.injEq, String.append_left_inj] at hcolumn
    exact typeText_eq_of_columnText_eq hcolumn
  · intro htypes statements
    exact rendersAsNew_of_writesAlike fun _ _ _ _ _ c' _ => htypes c'

/-! ## An enum type of an earlier list -/

/-- A list that declares an enum type, and a reset before the next unit of work. -/
def moodCalls : List RenderCall :=
  [.render [.enumType ⟨"mood", ["happy"]⟩], .reset]

/-- A table with a column of that type, which it does not declare. -/
def moodTable : Table :=
  (Table.new "people").addColumn (Column.new "mood" "mood")

/-- In MySQL a column is written with the values of an enum type that an earlier list
declared, where a new renderer writes the bare name. -/
theorem render_moodCalls_ne :
    (((ofDialect .mysql).calls moodCalls).render [.createTable moodTable]).2 =
        .ok "-- MYSQL TABLE: people --\nCREATE TABLE people (\n  mood ENUM('happy')\n);\n" ∧
      ((ofDialect .mysql).render [.createTable moodTable]).2 =
        .ok "-- MYSQL TABLE: people --\nCREATE TABLE people (\n  mood mood\n);\n" := by
  decide +kernel

end Renderer

end SchemaDdl
