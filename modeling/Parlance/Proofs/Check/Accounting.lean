import Mathlib.Data.List.Forall2
import Parlance.Check.Datum
import Parlance.Check.Session
import Parlance.Proofs.Sequence

/-!
# No failure is lost

What it is that an assertion holds is said here apart from how it is checked. A session has then
counted all of its checks and those whose assertions do not hold, and has reported each of these
once, in order, provided that every one of them has a place to report: `Session.accounts_iff`.
-/

namespace Parlance.Check

variable {ν : Type} [Checkable ν]

/-! ## Assertions that hold -/

/-- The error is what the value stands for: it is spelled like this, or belongs to this class, or
has the class and the arguments of this error. -/
inductive Meets (expected : ν) (raised : Raised ν) : Prop where
  | spelled : errorForm expected = .spelled raised.describe → Meets expected raised
  | errorClass {wanted} : errorForm expected = .errorClass wanted →
      wanted.name = raised.errorClass.name ∨ wanted.name ∈ raised.errorClass.ancestors →
      Meets expected raised
  | error {wanted} : errorForm expected = .error wanted →
      wanted.errorClass.name = raised.errorClass.name →
      List.Forall₂ (fun first second => alike first second = true) wanted.arguments
        raised.arguments →
      Meets expected raised

/-- What is asserted is so. -/
inductive Assertion.Holds : Assertion ν → Prop where
  | returns {expected call value} : call.result = .ok value → same expected value = true →
      Holds (.returns expected call)
  | raises {expected call raised} : call.result = .error raised → Meets expected raised →
      Holds (.raises expected call)
  | yields {expected call value wanted given} : items expected = .ok wanted →
      call.result = .ok value → items value = .ok given →
      List.Forall₂ (fun first second => alike first second = true) wanted given →
      Holds (.yields expected call)
  | yieldsError {expected call raised} : call.result = .error raised → Meets expected raised →
      Holds (.yieldsError expected call)
  | listingError {expected call value raised} : call.result = .ok value →
      items value = .error raised → Meets expected raised → Holds (.yieldsError expected call)
  | equals {expected actual description} : same expected actual = true →
      Holds (.equals expected actual description)

/-- The items that are expected can be listed. -/
def Assertion.Listable : Assertion ν → Prop
  | yields expected _ => ∃ wanted, items expected = .ok wanted
  | _ => True

section

variable {expected : ν} {raised : Raised ν} {assertion : Assertion ν} {call : Call ν}

/-- Items are the same if they are equal one by one. -/
theorem sameItems_iff {first second : List ν} :
    sameItems first second = true ↔
      List.Forall₂ (fun first second => alike first second = true) first second := by
  unfold sameItems
  induction first generalizing second with
  | nil => cases second <;> simp [List.isEqv]
  | cons item rest ih => cases second <;> simp [List.isEqv, ih]

/-- An error is admitted if it is what the value stands for. -/
theorem admits_iff : admits expected raised = true ↔ Meets expected raised := by
  unfold admits
  constructor
  · intro h
    split at h
    · next hform => exact .spelled (hform.trans (congrArg _ (beq_iff_eq.1 h)))
    · next hform =>
        simp only [ErrorClass.isA, ErrorClass.same, Bool.or_eq_true, beq_iff_eq,
          List.contains_iff_mem] at h
        exact .errorClass hform (h.imp_left Eq.symm)
    · next hform =>
        rw [Bool.and_eq_true, ErrorClass.same, beq_iff_eq, sameItems_iff] at h
        exact .error hform h.1 h.2
    · cases h
  · rintro (hform | ⟨hform, h⟩ | ⟨hform, hname, harguments⟩)
    · simp [hform]
    · simp only [hform, ErrorClass.isA, ErrorClass.same, Bool.or_eq_true, beq_iff_eq,
        List.contains_iff_mem]
      exact h.imp_left Eq.symm
    · simp [hform, ErrorClass.same, hname, sameItems_iff.2 harguments]

/-- Items that a call returns are those of a value that it returns. -/
theorem Call.items_eq_ok_iff {given : List ν} :
    call.items = .ok given ↔ ∃ value, call.result = .ok value ∧ Check.items value = .ok given :=
  bind_eq_ok_iff

/-- What comes of a call cannot be listed if the call raises an error, or listing its value does. -/
theorem Call.items_eq_error_iff :
    call.items = .error raised ↔ call.result = .error raised ∨
      ∃ value, call.result = .ok value ∧ Check.items value = .error raised :=
  bind_eq_error_iff

/-- What is asserted by a check that passes is so. -/
theorem Assertion.holds_of_failure? (h : assertion.failure? = .ok none) : assertion.Holds := by
  cases assertion with
  | returns expected call =>
      simp only [failure?] at h
      split at h
      · next hresult =>
          split at h
          · next hsame => exact .returns hresult hsame
          · cases h
      · cases h
  | raises expected call =>
      simp only [failure?] at h
      split at h
      · cases h
      · next hresult =>
          split at h
          · next hadmits => exact .raises hresult (admits_iff.1 hadmits)
          · cases h
  | yields expected call =>
      obtain ⟨wanted, hwanted, hrest⟩ := bind_eq_ok_iff.1 h
      simp only at hrest
      split at hrest
      · next hgiven =>
          obtain ⟨value, hresult, hitems⟩ := Call.items_eq_ok_iff.1 hgiven
          split at hrest
          · next hsame => exact .yields hwanted hresult hitems (sameItems_iff.1 hsame)
          · cases hrest
      · cases hrest
  | yieldsError expected call =>
      simp only [failure?] at h
      split at h
      · cases h
      · next hraised =>
          split at h
          · next hadmits =>
              have hmeets := admits_iff.1 hadmits
              rcases Call.items_eq_error_iff.1 hraised with hresult | ⟨value, hresult, hitems⟩
              · exact .yieldsError hresult hmeets
              · exact .listingError hresult hitems hmeets
          · cases h
  | equals expected actual description =>
      simp only [failure?] at h
      split at h
      · next hsame => exact .equals hsame
      · cases h

/-- A check of what is so passes. -/
theorem Assertion.Holds.failure?_eq (h : assertion.Holds) : assertion.failure? = .ok none := by
  cases h with
  | returns hresult hsame => simp [failure?, hresult, hsame]
  | raises hresult hmeets => simp [failure?, hresult, admits_iff.2 hmeets]
  | yields hwanted hresult hitems hsame =>
      simp [failure?, hwanted, Call.items_eq_ok_iff.2 ⟨_, hresult, hitems⟩,
        sameItems_iff.2 hsame, bind, Except.bind, pure, Except.pure]
  | yieldsError hresult hmeets =>
      simp [failure?, Call.items_eq_error_iff.2 (.inl hresult), admits_iff.2 hmeets]
  | listingError hresult hitems hmeets =>
      simp [failure?, Call.items_eq_error_iff.2 (.inr ⟨_, hresult, hitems⟩),
        admits_iff.2 hmeets]
  | equals hsame => simp [failure?, hsame]

/-- A check passes if and only if what it asserts is so. -/
theorem Assertion.failure?_eq_none_iff : assertion.failure? = .ok none ↔ assertion.Holds :=
  ⟨holds_of_failure?, Holds.failure?_eq⟩

/-- A check breaks off before it is known whether it fails only if the items that are expected
cannot be listed. -/
theorem Assertion.failure?_ok_iff :
    (∃ failure?, assertion.failure? = .ok failure?) ↔ assertion.Listable := by
  cases assertion with
  | yields expected call =>
      constructor
      · rintro ⟨failure?, h⟩
        obtain ⟨wanted, hwanted, -⟩ := bind_eq_ok_iff.1 h
        exact ⟨wanted, hwanted⟩
      · rintro ⟨wanted, hwanted⟩
        simp only [failure?, hwanted, bind, Except.bind]
        split <;> try split
        all_goals exact ⟨_, rfl⟩
  | _ =>
      simp only [failure?, Listable, iff_true]
      repeat' split
      all_goals exact ⟨_, rfl⟩

end

/-! ## Checks that are made -/

instance (assertion : Assertion ν) : Decidable assertion.Holds :=
  decidable_of_iff ((assertion.failure?.toOption.map Option.isNone) = some true) <| by
    rw [← Assertion.failure?_eq_none_iff]
    rcases assertion.failure? with raised | _ | failure <;> simp [Except.toOption]

namespace Trial

/-- The text is the report of the failure of a check, from the place of the failure. -/
def Reported (trial : Trial ν) (text : String) : Prop :=
  ∃ failure site, trial.assertion.failure? = .ok (some failure) ∧
    trial.stack[trial.assertion.depth]? = some site ∧ site.path ≠ "" ∧
    text = failure.report site

/-- If the check fails, it can be reported: what is expected is known, and the failure has a place
with a path. -/
def Reportable (trial : Trial ν) : Prop :=
  trial.assertion.Listable ∧
    ∃ site, trial.stack[trial.assertion.depth]? = some site ∧ site.path ≠ ""

variable {trial : Trial ν} {text : String} {session : Session}

omit [Checkable ν] in
/-- The place of a failure is known if the call that it is placed at is there, and has a path. -/
theorem site_eq_ok_iff {site : Site} :
    trial.site = .ok site ↔
      trial.stack[trial.assertion.depth]? = some site ∧ site.path ≠ "" := by
  unfold Trial.site
  cases trial.stack[trial.assertion.depth]? with
  | none => simp
  | some other =>
      simp only [Option.some.injEq, String.isEmpty_iff]
      split <;> grind

/-- A check that is reported fails, and can be reported. -/
theorem Reported.reportable (h : trial.Reported text) :
    ¬ trial.assertion.Holds ∧ trial.Reportable := by
  obtain ⟨failure, site, hfailure, hsite, hpath, -⟩ := h
  refine ⟨fun hholds => ?_, Assertion.failure?_ok_iff.1 ⟨_, hfailure⟩, site, hsite, hpath⟩
  rw [Assertion.failure?_eq_none_iff.2 hholds] at hfailure
  cases hfailure

/-- A check that fails and can be reported has a report. -/
theorem Reportable.exists_reported (h : trial.Reportable) (hfails : ¬ trial.assertion.Holds) :
    ∃ text, trial.Reported text := by
  obtain ⟨hlistable, site, hsite, hpath⟩ := h
  obtain ⟨failure?, hfailure⟩ := Assertion.failure?_ok_iff.2 hlistable
  cases failure? with
  | none => exact absurd (Assertion.failure?_eq_none_iff.1 hfailure) hfails
  | some failure => exact ⟨_, failure, site, hfailure, hsite, hpath, rfl⟩

end Trial

namespace Session

variable {trial : Trial ν} {trials : List (Trial ν)} {text : String} {session : Session}

/-- How a check goes: it is counted first, and its failure before that is reported. -/
theorem check_eq (trial : Trial ν) (session : Session) :
    check trial session =
      match trial.assertion.failure? with
      | .error raised => .error (.unlisted raised) { session with checks := session.checks + 1 }
      | .ok none => .ok () { session with checks := session.checks + 1 }
      | .ok (some failure) =>
        let failed := { session with
          checks := session.checks + 1
          failures := session.failures + 1 }
        match trial.site with
        | .error fault => .error fault failed
        | .ok site => .ok () (failed.report (failure.report site)) := by
  unfold check
  rcases trial.assertion.failure? with raised | _ | failure
  · rfl
  · rfl
  · cases trial.site <;> rfl

/-- A check of what is so is counted. -/
theorem after_of_holds (h : trial.assertion.Holds) :
    session.after trial = { session with checks := session.checks + 1 } := by
  rw [after, check_eq, Assertion.failure?_eq_none_iff.2 h]

/-- A check that fails is counted with the failures too, and reported. -/
theorem after_of_reported (h : trial.Reported text) :
    session.after trial =
      ⟨session.checks + 1, session.failures + 1, text :: session.reports⟩ := by
  obtain ⟨failure, site, hfailure, hsite, hpath, rfl⟩ := h
  rw [after, check_eq, hfailure]
  simp only [Trial.site_eq_ok_iff.2 ⟨hsite, hpath⟩]
  rfl

/-- The checks of what is not so. -/
def failing (trials : List (Trial ν)) : List (Trial ν) :=
  trials.filter fun trial => ¬ trial.assertion.Holds

/-- Checks that can all be reported if they fail are counted, and their failures are counted and
reported, the latest first. -/
theorem afterAll_eq (h : ∀ trial ∈ trials, ¬ trial.assertion.Holds → trial.Reportable) :
    ∃ texts, List.Forall₂ Trial.Reported (failing trials) texts ∧
      session.afterAll trials =
        ⟨session.checks + trials.length, session.failures + (failing trials).length,
          texts.reverse ++ session.reports⟩ := by
  induction trials generalizing session with
  | nil => exact ⟨[], .nil, rfl⟩
  | cons trial trials ih =>
      rw [List.forall_mem_cons] at h
      by_cases hholds : trial.assertion.Holds
      · obtain ⟨texts, hreported, hall⟩ := @ih (session.after trial) h.2
        have hfailing : failing (trial :: trials) = failing trials := by simp [failing, hholds]
        rw [after_of_holds hholds] at hall
        refine ⟨texts, hfailing ▸ hreported, ?_⟩
        rw [afterAll, List.foldl_cons, after_of_holds hholds, ← afterAll, hall, hfailing,
          List.length_cons, Nat.add_assoc, Nat.add_comm 1]
      · obtain ⟨text, htext⟩ := (h.1 hholds).exists_reported hholds
        obtain ⟨texts, hreported, hall⟩ := @ih (session.after trial) h.2
        have hfailing : failing (trial :: trials) = trial :: failing trials := by
          simp [failing, hholds]
        rw [after_of_reported htext] at hall
        refine ⟨text :: texts, hfailing ▸ .cons htext hreported, ?_⟩
        rw [afterAll, List.foldl_cons, after_of_reported htext, ← afterAll, hall, hfailing]
        simp only [List.length_cons, List.reverse_cons, List.append_assoc, List.cons_append,
          List.nil_append, Session.mk.injEq, and_true]
        omega

/-- The session accounts for all of these checks: it has counted them and those that fail, has
reported each of those once and nothing else, in order, and ends with a summary of the two numbers
and a status of one if and only if a check has failed. -/
structure Accounts (session : Session) (trials : List (Trial ν)) : Prop where
  checks : session.checks = trials.length
  failures : session.failures = (failing trials).length
  reports : List.Forall₂ Trial.Reported (failing trials) session.reports.reverse
  summary : session.finish.reports.reverse = session.reports.reverse ++
    if failing trials = [] then []
    else [s!"\nutest ran: {trials.length}; failed: {(failing trials).length}\n"]
  status : session.status = if failing trials = [] then 0 else 1

/-- A session that has counted and reported the checks and failures ends as it should. -/
theorem Accounts.of_eq {texts : List String}
    (hreported : List.Forall₂ Trial.Reported (failing trials) texts)
    (h : session = ⟨trials.length, (failing trials).length, texts.reverse⟩) :
    session.Accounts trials := by
  subst h
  refine ⟨rfl, rfl, by rwa [List.reverse_reverse], ?_, ?_⟩
  · by_cases hnone : failing trials = []
    · simp [finish, summary?, hnone]
    · simp [finish, summary?, hnone, report]
  · simp only [Session.status, List.length_eq_zero_iff]

/-- Checks that are made in a new session are all accounted for if and only if each that fails can
be reported. -/
theorem accounts_iff (trials : List (Trial ν)) :
    (afterAll {} trials).Accounts trials ↔
      ∀ trial ∈ trials, ¬ trial.assertion.Holds → trial.Reportable := by
  constructor
  · intro h trial hmem hfails
    have hfailing : trial ∈ failing trials := List.mem_filter.2 ⟨hmem, by simpa using hfails⟩
    obtain ⟨index, rfl⟩ := List.mem_iff_get.1 hfailing
    obtain ⟨hlength, hreported⟩ := List.forall₂_iff_get.1 h.reports
    exact (hreported index index.2 (hlength ▸ index.2)).reportable.2
  · intro h
    obtain ⟨texts, hreported, hall⟩ := @afterAll_eq _ _ _ {} h
    exact .of_eq hreported (by simpa using hall)

end Session

/-- A check in code without a path: a call is to return one, and returns two. -/
def pathless : Trial Datum where
  stack := [⟨"", 1⟩]
  assertion := .returns (.literal (.scalar (.int 1)))
    { subject := "ident"
      arguments := [.literal (.scalar (.int 2))]
      result := .ok (.literal (.scalar (.int 2))) }

/-- Its failure is counted, but not reported. -/
theorem pathless_unreported :
    Session.afterAll {} [pathless] = ⟨1, 1, []⟩ ∧
      ¬ (Session.afterAll {} [pathless]).Accounts [pathless] := by
  have hafter : Session.afterAll {} [pathless] = ⟨1, 1, []⟩ := by decide +kernel
  refine ⟨hafter, fun h => ?_⟩
  have hlength := h.reports.length_eq
  rw [← h.failures, hafter] at hlength
  cases hlength

end Parlance.Check
