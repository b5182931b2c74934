import UptimeMonitor.Proofs.Json.Members
import UptimeMonitor.Run.Execution

/-!
# What a step takes, and what a request reads

Variables are known by their names alone: what a step takes from its report is described name by
name, and a request built from variables that no name tells apart is the same.

- `Step.NamesOnce`: no variable of a step has two paths.
- `Variables.get?_collect`: the variables after a step, name by name.
- `Variables.Agree`: no name tells the variables apart.
- `Variables.agree_collect_perm`: the order of what a step takes does not matter.
- `RequestTemplate.build_congr`: a request reads variables by name only.
-/

namespace UptimeMonitor

/-- The variables that a step takes, each with its path. -/
def Step.entries (step : Step) : Members := step.extract.getD []

/-- No variable of the step has two paths. -/
def Step.NamesOnce (step : Step) : Prop := (step.entries.map Prod.fst).Nodup

/-- What a step finds for a variable: the value at the end of its path, if it has one that leads
anywhere. -/
def Step.taken? (step : Step) (root : Json) (name : String) : Option Json :=
  (Members.get? step.entries name).bind fun path => root.extract? path.display

namespace Variables

variable {vars vars' : Variables} {root : Json} {name : String}

/-! ## What a step takes -/

/-- One variable is taken: it gets the value at its path, if there is one. -/
theorem get?_take (root : Json) (vars : Variables) (entry : String × Json) (name : String) :
    Members.get? (vars.take root entry) name =
      if name = entry.1 then (root.extract? entry.2.display).or (Members.get? vars name)
      else Members.get? vars name := by
  unfold take
  cases root.extract? entry.2.display with
  | none => simp
  | some value => simp [Members.get?_insert]

/-- Variables are taken one after the other: a name with a path that leads anywhere has the value
there, any other is as it was. -/
theorem get?_foldl_take (root : Json) {entries : Members}
    (h : (entries.map Prod.fst).Nodup) (vars : Variables) (name : String) :
    Members.get? (entries.foldl (take root) vars) name =
      ((Members.get? entries name).bind fun path => root.extract? path.display).or
        (Members.get? vars name) := by
  induction entries generalizing vars with
  | nil => rfl
  | cons entry rest ih =>
    obtain ⟨hfresh, hrest⟩ := List.nodup_cons.mp h
    rw [List.foldl_cons, ih hrest, get?_take, Members.get?_cons]
    by_cases hname : entry.1 = name
    · -- no later entry has the name, so that what this one took stays
      subst hname
      rw [Members.get?_eq_none_iff.mpr hfresh, if_pos rfl, if_pos rfl]
      rfl
    · rw [if_neg hname, if_neg fun e => hname e.symm]

/-- A step that failed takes nothing. -/
theorem collect_of_failure {step : Step} {report : StepReport} {failure : StepFailure}
    (h : report.failure = some failure) : vars.collect step report = vars := by
  unfold collect
  rw [h]
  rfl

/-- A step with a response takes what its paths lead to, and leaves the rest as it was. -/
theorem get?_collect {step : Step} {report : StepReport} (hstep : step.NamesOnce)
    (hreport : report.failure = none) (vars : Variables) (name : String) :
    Members.get? (vars.collect step report) name =
      (step.taken? report.root name).or (Members.get? vars name) := by
  unfold collect
  rw [hreport]
  exact get?_foldl_take report.root hstep vars name

/-! ## Variables that no name tells apart -/

/-- No name tells the variables apart. -/
def Agree (vars vars' : Variables) : Prop :=
  ∀ name, Members.get? vars name = Members.get? vars' name

/-- The order in which a step takes its variables does not matter. -/
theorem agree_collect_perm {step : Step} {entries : Members} {report : StepReport}
    (hstep : step.NamesOnce) (hperm : entries.Perm step.entries) (vars : Variables) :
    (vars.collect { step with extract := some entries } report).Agree
      (vars.collect step report) := by
  intro name
  have hentries : (entries.map Prod.fst).Nodup := (hperm.map Prod.fst).nodup_iff.mpr hstep
  have hpermuted : Step.NamesOnce { step with extract := some entries } := hentries
  cases hreport : report.failure with
  | some failure => rw [collect_of_failure hreport, collect_of_failure hreport]
  | none =>
    have hfound : Step.taken? { step with extract := some entries } report.root name =
        step.taken? report.root name := by
      unfold Step.taken?
      -- With each name once, a lookup does not depend on the order.
      rw [← Members.get?_perm hperm hentries name]
      rfl
    rw [get?_collect hstep hreport, get?_collect hpermuted hreport, hfound]

theorem Agree.fill (h : vars.Agree vars') : vars.fill = vars'.fill := by
  funext piece
  cases piece with
  | char c => rfl
  | placeholder inner =>
    unfold Variables.fill
    dsimp only
    rw [h]

theorem Agree.interpolate (h : vars.Agree vars') : vars.interpolate = vars'.interpolate := by
  funext template
  unfold Variables.interpolate
  rw [h.fill]

mutual

theorem Agree.interpolateJson (h : vars.Agree vars') :
    ∀ j : Json, vars.interpolateJson j = vars'.interpolateJson j
  | .string s => by
    rw [Variables.interpolateJson, Variables.interpolateJson, h.interpolate]
  | .array xs => by
    rw [Variables.interpolateJson, Variables.interpolateJson, h.interpolateItems xs]
  | .object ms => by
    rw [Variables.interpolateJson, Variables.interpolateJson, h.interpolateMembers ms]
  | .null => rfl
  | .bool _ => rfl
  | .number _ => rfl

theorem Agree.interpolateItems (h : vars.Agree vars') :
    ∀ xs : List Json, vars.interpolateItems xs = vars'.interpolateItems xs
  | [] => rfl
  | x :: xs => by
    rw [Variables.interpolateItems, Variables.interpolateItems, h.interpolateJson x,
      h.interpolateItems xs]

theorem Agree.interpolateMembers (h : vars.Agree vars') :
    ∀ ms : Members, vars.interpolateMembers ms = vars'.interpolateMembers ms
  | [] => rfl
  | (k, x) :: ms => by
    rw [Variables.interpolateMembers, Variables.interpolateMembers, h.interpolateJson x,
      h.interpolateMembers ms]

end

end Variables

/-! ## What a request reads -/

namespace RequestTemplate

variable {vars vars' : Variables}

theorem addHeaders_congr (h : vars.Agree vars') (ms : Members) (headers : Http.Headers) :
    addHeaders vars ms headers = addHeaders vars' ms headers := by
  induction ms generalizing headers with
  | nil => rfl
  | cons m rest ih =>
    obtain ⟨name, value⟩ := m
    unfold addHeaders
    rw [h.interpolate]
    dsimp only
    split
    · rfl
    · split
      · rfl
      · exact ih _

theorem bodyWith_congr (h : vars.Agree vars') (t : RequestTemplate) :
    t.bodyWith vars = t.bodyWith vars' := by
  unfold bodyWith
  split
  · rfl
  · rfl
  · rw [h.interpolate]
  · rw [h.interpolateJson]

/-- A request reads variables by name only. -/
theorem build_congr (h : vars.Agree vars') (t : RequestTemplate) (agent : String) :
    t.build agent vars = t.build agent vars' := by
  unfold build headersWith
  rw [h.interpolate, bodyWith_congr h, addHeaders_congr h]

end RequestTemplate

end UptimeMonitor
