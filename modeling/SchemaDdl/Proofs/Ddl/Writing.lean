/-
# Writing statements in a row

A renderer writes statements one after another into one text, or each on its own.  If
every statement can be written, both come to the same:

* `writeNumbered_eq_ok` : what a row of statements adds to the text;
* `exists_entries` : statements of one text each make the same texts on their own.
-/
import SchemaDdl.Ddl.Renderer
import SchemaDdl.Proofs.Text.Ending

namespace SchemaDdl

/-! ## Walks -/

/-- A walk that gets through a first part goes on with the second. -/
theorem walk_append_of_ok {σ : Type} {step : σ → Statement → Except Failure σ}
    {state state' : σ} {first : List (Statement × Nat)}
    (h : walk step state first = (state', .ok ())) (second : List (Statement × Nat)) :
    walk step state (first ++ second) = walk step state' second := by
  -- The first part is walked from a new state after each statement.
  induction first generalizing state with
  | nil =>
    rw [walk, Prod.mk.injEq] at h
    rw [List.nil_append, h.1]
  | cons s rest ih =>
    rw [walk] at h
    rw [List.cons_append, walk]
    cases hstep : step state s.1 with
    | error cause =>
      rw [hstep] at h
      simp at h
    | ok next =>
      rw [hstep] at h
      exact ih h

namespace Renderer

/-! ## Texts with newlines -/

/-- No texts make an empty text. -/
@[simp]
theorem terminated_nil : terminated [] = "" := by
  simp [terminated]

/-- The first text is followed by a newline and then by the rest. -/
theorem terminated_cons (text : String) (texts : List String) :
    terminated (text :: texts) = text ++ "\n" ++ terminated texts := by
  simp [terminated]

/-- Texts in a row make their lines in a row. -/
@[simp]
theorem terminated_append (texts texts' : List String) :
    terminated (texts ++ texts') = terminated texts ++ terminated texts' := by
  simp [terminated, String.join_append]

/-- Each of the texts on a line of its own, with a newline after the last. -/
theorem terminated_eq_intercalate {texts : List String} (h : texts ≠ []) :
    terminated texts = "\n".intercalate texts ++ "\n" := by
  induction texts with
  | nil => exact absurd rfl h
  | cons text rest ih =>
    cases rest with
    | nil => simp [terminated]
    | cons next rest =>
      have hrest := ih (List.cons_ne_nil next rest)
      rw [← List.singleton_append, terminated_append, hrest, List.singleton_append,
        String.intercalate_cons_cons, String.append_assoc]
      simp [terminated]

/-! ## Writing -/

/-- A statement that can be written adds its texts. -/
theorem write_eq_ok {r : Renderer} {s : Statement} {texts : List String}
    (h : r.profile.statementTexts r.known s = .ok texts) :
    r.write s = .ok { r with output := r.output ++ terminated texts } := by
  rw [write, h]
  rfl

/-- Statements that can be written add their texts in order. -/
theorem writeNumbered_eq_ok {r : Renderer} {numbered : List (Statement × Nat)}
    (texts : Statement → List String)
    (h : ∀ s ∈ numbered, r.profile.statementTexts r.known s.1 = .ok (texts s.1)) :
    r.writeNumbered numbered =
      ({ r with output := r.output ++ terminated ((numbered.map Prod.fst).flatMap texts) },
        .ok ()) := by
  unfold writeNumbered
  -- The rest is written by a renderer that holds the texts so far.
  induction numbered generalizing r with
  | nil => simp [walk]
  | cons s rest ih =>
    have hrest := ih (r := { r with output := r.output ++ terminated (texts s.1) })
      fun s' hs' => h s' (by simp [hs'])
    rw [walk, write_eq_ok (h s (by simp))]
    dsimp only
    rw [hrest, List.map_cons, List.flatMap_cons, terminated_append, String.append_assoc]

/-- Enum types add the statements that create them, where there are such statements. -/
theorem writeNumbered_enumTypes {r : Renderer} {numbered : List (Statement × Nat)}
    {enums : List EnumType} (h : numbered.map Prod.fst = enums.map .enumType) :
    r.writeNumbered numbered =
      ({ r with output := r.output ++ terminated (enums.filterMap r.profile.createEnum) },
        .ok ()) := by
  have hwritable : ∀ s ∈ numbered, r.profile.statementTexts r.known s.1 =
      .ok (s.1.enum?.bind r.profile.createEnum).toList := by
    intro s hs
    have hmem : s.1 ∈ enums.map Statement.enumType := h ▸ List.mem_map_of_mem hs
    obtain ⟨e, _, heq⟩ := List.mem_map.mp hmem
    rw [← heq]
    rfl
  rw [writeNumbered_eq_ok (fun s => (s.enum?.bind r.profile.createEnum).toList) hwritable, h,
    List.flatMap_map, List.filterMap_eq_flatMap_toList]
  rfl

/-- A statement that can be written is rendered as its texts without the blank end. -/
theorem renderStatement_eq_ok_trimRight {r : Renderer} {s : Statement} {texts : List String}
    (h : r.profile.statementTexts r.known s = .ok texts) :
    (r.renderStatement s).2 = .ok (Text.trimRight (terminated texts)) := by
  have hwrite : r.reset.write s = .ok { r with output := terminated texts } := by
    rw [write_eq_ok (r := r.reset) h]
    simp [reset]
  rw [renderStatement, hwrite]

/-- A statement whose texts end visibly is rendered as these texts, each on a line. -/
theorem renderStatement_eq_ok_intercalate {r : Renderer} {s : Statement} {texts : List String}
    (h : r.profile.statementTexts r.known s = .ok texts) (hne : texts ≠ [])
    (hend : ∀ text ∈ texts, Text.EndsNonblank text) :
    (r.renderStatement s).2 = .ok ("\n".intercalate texts) := by
  rw [renderStatement_eq_ok_trimRight h, terminated_eq_intercalate hne,
    (Text.endsNonblank_intercalate "\n" hne hend).trimRight_append_newline]

/-- A statement of one text is rendered as this text if it ends visibly. -/
theorem renderStatement_eq_ok {r : Renderer} {s : Statement} {text : String}
    (h : r.profile.statementTexts r.known s = .ok [text]) (hend : Text.EndsNonblank text) :
    (r.renderStatement s).2 = .ok text := by
  have hends : ∀ text' ∈ [text], Text.EndsNonblank text' := by
    rintro text' htext
    exact List.mem_singleton.mp htext ▸ hend
  rw [renderStatement_eq_ok_intercalate h (List.cons_ne_nil text []) hends,
    String.intercalate_singleton]

/-- **One by one or in a row.**  Statements of one text each, rendered on their own, make
the texts that they add when they are written in a row. -/
theorem exists_entries {r : Renderer} {statements : List Statement}
    (h : ∀ s ∈ statements, ∃ text, r.profile.statementTexts r.known s = .ok [text] ∧
      Text.EndsNonblank text) :
    ∃ entries, statements.mapM (fun s => (r.renderStatement s).2) = .ok entries ∧
      entries.length = statements.length ∧
      ∀ numbered : List (Statement × Nat), numbered.map Prod.fst = statements →
        ∀ output, { r with output := output }.writeNumbered numbered =
          ({ r with output := output ++ terminated entries }, .ok ()) := by
  induction statements with
  | nil =>
    refine ⟨[], rfl, rfl, fun numbered hnumbered output => ?_⟩
    rw [List.map_eq_nil_iff.mp hnumbered]
    simp [writeNumbered, walk]
  | cons s rest ih =>
    obtain ⟨text, htext, hend⟩ := h s (by simp)
    obtain ⟨entries, hentries, hlength, hwritten⟩ := ih fun s' hs' => h s' (by simp [hs'])
    refine ⟨text :: entries, ?_, ?_, fun numbered hnumbered output => ?_⟩
    · rw [List.mapM_cons, renderStatement_eq_ok htext hend, hentries]
      rfl
    · rw [List.length_cons, List.length_cons, hlength]
    · obtain ⟨first, numbered', rfl, rfl, hrest⟩ := List.map_eq_cons_iff.mp hnumbered
      have hwrite : { r with output := output }.write first.1 =
          .ok { r with output := output ++ terminated [text] } := write_eq_ok htext
      have hnext := hwritten numbered' hrest (output ++ terminated [text])
      rw [writeNumbered] at hnext
      rw [writeNumbered, walk, hwrite]
      dsimp only
      rw [hnext, String.append_assoc, ← terminated_append, List.singleton_append]

/-- Picking numbered statements picks the statements. -/
theorem map_fst_filter_zipIdx (keep : Statement → Bool) (statements : List Statement) :
    (statements.zipIdx.filter fun s => keep s.1).map Prod.fst = statements.filter keep := by
  have hfilter := List.filter_map (f := Prod.fst) (p := keep) (l := statements.zipIdx)
  rw [List.zipIdx_map_fst] at hfilter
  exact hfilter.symm

end Renderer

end SchemaDdl
