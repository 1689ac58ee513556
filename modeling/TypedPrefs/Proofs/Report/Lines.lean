import TypedPrefs.Generation
import TypedPrefs.Proofs.Blueprint.Lines
import TypedPrefs.Report.Rendering

/-!
# Reports line by line

A report as text should have a line for each diagnostic and one for the summary. Since messages and
places show texts of the declaration as they are written, and quote the parsers, this is so exactly
if nothing that is shown or quoted has a line feed.
-/

namespace TypedPrefs

open Text

namespace Report

variable [Parsers]

/-- The text of a report splits at line feeds into the diagnostics, in their order, and the summary;
behind the last line feed there is nothing. -/
def IsLineByLine (ds : List Diagnostic) : Prop :=
  splitAtChar '\n' (text ds) = ds.map Diagnostic.display ++ [summary ds, ""]

instance (ds : List Diagnostic) : Decidable (IsLineByLine ds) :=
  inferInstanceAs (Decidable (_ = _))

omit [Parsers] in
theorem isOneLine_summary (ds : List Diagnostic) : IsOneLine (summary ds) := by
  unfold summary
  split
  · decide
  · simp +decide

theorem isLineByLine_iff {ds : List Diagnostic} :
    IsLineByLine ds ↔ ∀ x ∈ ds, IsOneLine x.display := by
  have hlines := splitAtChar_lines_iff (ds.map Diagnostic.display ++ [summary ds])
  rw [List.append_assoc, List.singleton_append, List.forall_mem_append, List.forall_mem_map,
    List.forall_mem_singleton, and_iff_left (isOneLine_summary ds)] at hlines
  exact hlines

end Report

/-- **When a report has a line for each diagnostic.** This is so exactly if, for each of them, the
message and the name of the place have no line feed. About a source that is no declaration there is
one diagnostic, and what matters is what the parser of documents says. If the source is a
declaration, and the other parsers are brief, it is enough that none of the texts has a line feed
that reports may show. -/
theorem check_isLineByLine_iff [Parsers] (source : String) (depth : Nat) :
    (Report.IsLineByLine (check source depth) ↔
      ∀ x ∈ check source depth,
        (∀ name ∈ x.location.name?, IsOneLine name) ∧ IsOneLine x.message.wording) ∧
    (∀ e, Declaration.parse source = .error e →
      (Report.IsLineByLine (check source depth) ↔
        IsOneLine (Refused.document source e.fault.reason?).words)) ∧
    ∀ d, Declaration.parse source = .ok d → Parsers.AreBrief →
      (∀ text ∈ d.shown, IsOneLine text) → Report.IsLineByLine (check source depth) := by
  refine ⟨?_, ?_, ?_⟩
  · simp only [Report.isLineByLine_iff, Diagnostic.isOneLine_display_iff]
  · intro e hparse
    have hsource : e.source = source := by
      obtain ⟨fault, -, rfl⟩ := mapError_eq_error_iff.mp hparse
      rfl
    have hcheck : check source depth = [.error .source (Declaration.parseMessage e)] := by
      simp only [check, analyze, hparse]
    have hdisplay : (Diagnostic.error .source (Declaration.parseMessage e)).display =
        "error: <source>: failed to parse declaration source: " ++
          (Refused.document source e.fault.reason?).words := by
      rw [← hsource]
      rfl
    rw [Report.isLineByLine_iff, hcheck, List.forall_mem_singleton, hdisplay]
    simp +decide
  · intro d hparse hbrief hshown
    have hcheck : check source depth = (Blueprint.build depth d).2 := by
      simp only [check, analyze, hparse]
    rw [Report.isLineByLine_iff, hcheck]
    exact Blueprint.isOneLine_of_build hbrief hshown depth

/-- A declaration of a class with a single group of the given name, in TOML. -/
def groupSource (group : String) : String :=
  "[preferences]\nname = \"Main\"\n[[preferences.groups]]\nname = \"" ++ group ++ "\"\n"

/-- A group without preferences is reported on one line. -/
theorem check_isLineByLine_empty_group :
    @Report.IsLineByLine .plain (check (groupSource "view")) ∧
      check (groupSource "view") =
        [.warning (.group 0 "view") "Preference group view declares no preferences"] := by
  have hreported : check (groupSource "view") =
      [.warning (.group 0 "view") "Preference group view declares no preferences"] := by
    decide +kernel
  have hparsed : holdsOfResult (Declaration.parse (groupSource "view"))
      (fun d => ∀ text ∈ d.shown, IsOneLine text) = true := by
    decide +kernel
  obtain ⟨d, hparse, hshown⟩ := exists_of_result hparsed
  have hlines := (@check_isLineByLine_iff .plain (groupSource "view") searchDepth).2.2
  exact ⟨hlines d hparse Parsers.areBrief_plain hshown, hreported⟩

/-- A group whose name has a line feed is not, whatever the parsers say. -/
theorem check_not_isLineByLine_group :
    ¬ ∃ _ : Parsers, ∀ source, Report.IsLineByLine (check source) := by
  have hreported : check (groupSource "a\\nb") =
      [.error (.group 0 "a\nb") "Illegal preference group name: a\nb"] := by
    decide +kernel
  rintro ⟨_, h⟩
  have hline := Report.isLineByLine_iff.mp (h (groupSource "a\\nb"))
  rw [hreported, List.forall_mem_singleton, Diagnostic.isOneLine_display_iff] at hline
  have hbroken : ¬ IsOneLine "a\nb" := by decide
  exact hbroken (hline.1 "a\nb" rfl)

end TypedPrefs
