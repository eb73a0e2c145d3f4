import InsightRelay.Manifest.Document
import InsightRelay.Proofs.Json.Seam.Reader

/-! Manifest reading is decided by the first problem: what goes wrong in a text goes wrong in the same way
in every longer text, but for the words for a comma too much, and the start of a good document is never
found to be a bad one. -/

namespace InsightRelay

open Json

section Readers

theorem steady_ecosystem : Steady Ecosystem.reader :=
  steady_variant.map Ecosystem.ofDocumentName

theorem steady_textField : Steady textField :=
  (steady_text _).optional

theorem steady_integerField : Steady integerField :=
  ((steady_integer _).map Int64.ofInt).optional

theorem steady_packageId : Steady PackageId.layout.read :=
  Layout.steady_read <| List.forall_mem_cons.2 ⟨steady_needed (steady_text _),
    List.forall_mem_singleton.2 (steady_needed (steady_text _))⟩

theorem steady_vulnerability : Steady VulnerabilityNote.layout.read := by
  refine Layout.steady_read ?_
  simp only [VulnerabilityNote.layout, List.forall_mem_cons]
  exact ⟨steady_defaulted steady_textField, steady_defaulted steady_textField,
    steady_defaulted steady_textField, nofun⟩

theorem steady_project : Steady ProjectNote.layout.read := by
  refine Layout.steady_read ?_
  simp only [ProjectNote.layout, List.forall_mem_cons]
  exact ⟨steady_defaulted steady_textField, steady_defaulted steady_textField,
    steady_defaulted steady_textField, steady_defaulted steady_integerField,
    steady_defaulted steady_integerField, steady_defaulted steady_integerField, nofun⟩

theorem steady_insights : Steady Insights.layout.read := by
  refine Layout.steady_read ?_
  simp only [Insights.layout, List.forall_mem_cons]
  exact ⟨steady_defaulted steady_vulnerability.list.optional,
    steady_defaulted steady_project.list.optional, steady_defaulted (steady_text _).list.optional, nofun⟩

theorem steady_manifestPackage : Steady ManifestPackage.layout.read := by
  refine Layout.steady_read ?_
  simp only [ManifestPackage.layout, List.forall_mem_cons]
  exact ⟨steady_needed (steady_text _), steady_needed (steady_text _),
    steady_defaulted steady_insights.optional, nofun⟩

theorem steady_graph : Steady graphReader :=
  steady_packageId.list.dictionary.map Dictionary.ofList

theorem steady_manifest : Steady Manifest.layout.read := by
  refine Layout.steady_read ?_
  simp only [Manifest.layout, List.forall_mem_cons]
  exact ⟨steady_needed steady_ecosystem, steady_needed (steady_text _), steady_defaulted steady_textField,
    steady_defaulted steady_manifestPackage.list, steady_defaulted steady_graph.optional, nofun⟩

end Readers

section Wholes

variable {α : Type} {read : Reader α} {cut : Cut} {text rest : List Char} {value : α}

theorem skipGap_append_ne_nil (more : skipGap text ≠ []) (rest : List Char) :
    skipGap (text ++ rest) ≠ [] := by
  intro none
  exact more (List.dropWhile_eq_nil_iff.2 fun char member =>
    List.dropWhile_eq_nil_iff.1 none char (List.mem_append_left rest member))

/-- A problem of a text that ends with a space is the problem of every longer text, but for what stands
too much behind a comma. -/
theorem whole_stays (steady : Steady read) (seam : Seam cut rest .outside text) (spaced : cut.spaced)
    {problem : Problem} (failed : whole read text = .error problem) (late : problem.kind ≠ .early) :
    whole read (text ++ rest) = .error problem ∨ cut.turning ∧ problem = .malformed .trailingText ∧
      whole read (text ++ rest) = .error (.malformed .trailingComma) := by
  -- The problem is met in the value, or it is what stands behind the value.
  have goesOn := steady.goesOn seam
  rw [whole] at failed ⊢
  cases part : read text with
  | error first =>
    rw [part] at failed goesOn
    cases failed
    rcases goesOn.stays spaced late with same | ⟨turning, surplus, same⟩
    · exact .inl (by rw [same]; rfl)
    · exact .inr ⟨turning, surplus, by rw [same]; rfl⟩
  | ok taken =>
    obtain ⟨value, left⟩ := taken
    rw [part] at failed goesOn
    obtain ⟨⟨value', left'⟩, read_, same, same', -⟩ := goesOn.kept spaced
    obtain rfl : left' = left ++ rest := same'
    simp only [read_, bind, Except.bind] at failed ⊢
    -- Behind the value there was something, and the rest cannot take it away.
    by_cases none : skipGap left = []
    · rw [none] at failed
      contradiction
    · rw [List.isEmpty_eq_false_iff.2 none] at failed
      rw [List.isEmpty_eq_false_iff.2 (skipGap_append_ne_nil none rest)]
      exact .inl failed

/-- A text that starts an accepted document is accepted for the same value or ends early. -/
theorem whole_starts (steady : Steady read) (seam : Seam cut rest .outside text)
    (accepted : whole read (text ++ rest) = .ok value) :
    whole read text = .ok value ∨ ∃ within, whole read text = .error (.endsEarly within) := by
  have goesOn := steady.goesOn seam
  rw [whole] at accepted ⊢
  cases long : read (text ++ rest) with
  | error problem =>
    rw [long] at accepted
    contradiction
  | ok taken =>
    obtain ⟨value', left'⟩ := taken
    rw [long] at accepted goesOn
    -- The value is read in the part too, unless the part ends within it.
    rcases goesOn.accepted with ⟨within, early⟩ | ⟨⟨value'', left⟩, short, same, same', -⟩
    · rw [early]
      exact .inr ⟨within, rfl⟩
    · -- Only a gap is left behind the value of the whole, so no more is left in the part.
      obtain rfl : value' = value'' := same
      obtain rfl : left' = left ++ rest := same'
      simp only [bind, Except.bind] at accepted
      have none : skipGap left = [] := by
        by_contra more
        rw [List.isEmpty_eq_false_iff.2 (skipGap_append_ne_nil more rest)] at accepted
        contradiction
      have same : value' = value := by
        split at accepted
        · exact Except.ok.inj accepted
        · contradiction
      left
      simp [short, bind, Except.bind, none, same]

end Wholes

/-- What the first part of a document says about the whole. -/
structure Manifest.Foretold (text : String) : Prop where
  /-- Behind a space, a problem that is more than an early end stays one of its kind whatever follows,
  and it stays the same but for one thing: characters that stand too much behind a comma are a comma
  too much if a list ends there. -/
  stays : ∀ problem, ofJson (text ++ " ") = .error problem → problem.kind ≠ .early →
    ∀ more, ∃ later, ofJson (text ++ " " ++ more) = .error later ∧ later.kind = problem.kind ∧
      (later = problem ∨ problem = .malformed .trailingText ∧ later = .malformed .trailingComma ∧
        Turning (text ++ " ").toList more.toList)
  /-- Where the text starts an accepted document and no number literal of it is cut, the text is
  accepted as well or ends early. -/
  starts : ∀ rest manifest, ofJson (text ++ rest) = .ok manifest →
    ¬ CutsNumber .outside text.toList rest.toList →
      ofJson text = .ok manifest ∨ ∃ problem, ofJson text = .error problem ∧ problem.kind = .early

/-- The first problem of a manifest document decides, whatever follows it, and no start of an accepted
document has a problem other than its end. -/
theorem Manifest.first_problem_decides (text : String) : Manifest.Foretold text where
  stays := by
    intro problem failed late more
    -- What follows a space cuts no number, so the seam is a good one whatever it is.
    have seam := Seam.behind_space more.toList text.toList .outside
    rw [ofJson, String.toList_append] at failed ⊢
    rw [String.toList_append]
    rcases whole_stays steady_manifest seam trivial failed late with same | ⟨turning, rfl, turned⟩
    · exact ⟨problem, same, rfl, .inl rfl⟩
    · exact ⟨_, turned, rfl, .inr ⟨rfl, rfl, by simpa using turning⟩⟩
  starts := by
    intro rest manifest accepted uncut
    -- Here the cut is excluded by what is assumed, and nothing else is said about the seam.
    have seam : Seam ⟨False, True⟩ rest.toList .outside text.toList :=
      ⟨uncut, False.elim, fun _ => trivial⟩
    rw [ofJson, String.toList_append] at accepted
    exact (whole_starts steady_manifest seam accepted).imp_right
      fun ⟨within, early⟩ => ⟨_, early, rfl⟩

/-- A text with a wrong path, which is a problem as soon as the number has ended. -/
def wrongPath : String :=
  "\x7b\"path\":7"

/-- A text that ends inside a path of digits, which is no number literal. -/
def openPath : String :=
  "\x7b\"ecosystem\":\"npm\",\"path\":\"1"

/-- The wrong path decides on every longer text, and the open one may be completed. -/
theorem Manifest.first_problem_decides_of_paths :
    (∀ more, ofJson (wrongPath ++ " " ++ more) =
      .error (.unfit (.wrongType (.integer 7) .text))) ∧
    (ofJson openPath = .ok ⟨.npm, "12", none, [], none⟩ ∨
      ∃ problem, ofJson openPath = .error problem ∧ problem.kind = .early) := by
  have failed : ofJson (wrongPath ++ " ") = .error (.unfit (.wrongType (.integer 7) .text)) := by
    decide +kernel
  have accepted : ofJson (openPath ++ "2\"\x7d") = .ok ⟨.npm, "12", none, [], none⟩ := by
    decide +kernel
  have inside : Place.outside.behind openPath.toList = .inside := by decide +kernel
  refine ⟨fun more => ?_, ?_⟩
  · obtain ⟨later, same, -, rfl | ⟨other, -⟩⟩ :=
      (first_problem_decides wrongPath).stays _ failed (by decide) more
    · exact same
    · cases other
  -- The open document ends within a string, where no number can be cut.
  have uncut : ¬ CutsNumber .outside openPath.toList "2\"\x7d".toList := fun cut => by
    rw [cut.outside] at inside
    contradiction
  exact (first_problem_decides openPath).starts _ _ accepted uncut

/-- A manifest written as a list, with a comma behind its last field. -/
def commaTooMuch : String :=
  "[\"npm\",\"p\",null,[],null,"

/-- Problems need not keep their words when a text goes on. -/
theorem Manifest.problem_reworded : ¬ ∀ text problem, ofJson (text ++ " ") = .error problem →
    problem.kind ≠ .early → ∀ more, ∃ later, ofJson (text ++ " " ++ more) = .error later ∧
      later.kind = problem.kind ∧ later.message = problem.message := by
  intro keeps
  have surplus : ofJson (commaTooMuch ++ " ") = .error (.malformed .trailingText) := by decide +kernel
  have comma : ofJson (commaTooMuch ++ " " ++ "]") = .error (.malformed .trailingComma) := by
    decide +kernel
  -- The end of the list behind the comma makes the comma the problem.
  obtain ⟨later, failed, -, words⟩ := keeps commaTooMuch _ surplus (by decide) "]"
  obtain rfl : .malformed .trailingComma = later := Except.error.inj (comma.symm.trans failed)
  exact absurd words (by decide)

end InsightRelay
