import TypeWitness.Proofs.GroupedAccessors
import TypeWitness.Proofs.OrderIndependence
import TypeWitness.Proofs.QuotedArguments

/-! # Clashing targets are resolved without loss
Several holders and containers can ask for a class of the same name. The least of them is kept, and
each other one is reported together with the one that is kept. Only the target kept last is looked
at, which is enough in a sorted list: there the targets of one name stand together, and the least
of them comes first. A report has the names of both and of what they were generated from, but names
in which placeholders stand do not come out as they are.

* `fillTemplate_clashTemplate_iff` — when the message of a clash has the names as they are.
* `KeepsLeast` — what it means to resolve clashes.
* `KeepsLeast.drop`, `KeepsLeast.keep` — what one more target does.
* `keepsLeast_dropClashes` — clashes of sorted targets are resolved.
* `Manifest.mem_targets_or_clash` — a target of a manifest is generated or reported.
* `Manifest.clashes_resolved` — clashes of all targets of a manifest are resolved. -/

namespace TypeWitness

/-! ## What a clash says -/

/-- The message that a class clashes, with the name of the class, what it was generated from, and
what the class of that name was generated from that is kept. -/
def clashMessage (name origins winnerOrigins : String) : String :=
  "Class '" ++ name ++ "' generated from '" ++ origins
    ++ "' clashes with the one generated from '" ++ winnerOrigins ++ "' and is skipped."

/-- The template for classes that clash. -/
def clashTemplate : MessageTemplate := ⟨4002, .error, clashMessage "{0}" "{1}" "{2}"⟩

theorem clashTemplate_mem : clashTemplate ∈ messageTemplates := by
  have htext : clashMessage "{0}" "{1}" "{2}" =
      "Class '{0}' generated from '{1}' clashes with the one generated from '{2}' "
        ++ "and is skipped." := by decide +kernel
  simp [clashTemplate, htext, messageTemplates]

/-- The template has three places. -/
theorem templateParts_clashTemplate :
    templateParts clashTemplate.text.toList =
      letters "Class '" ++ .place 0 :: (letters "' generated from '" ++ .place 1 ::
        (letters "' clashes with the one generated from '" ++ .place 2 ::
          letters "' and is skipped.")) := by
  decide +kernel

theorem fillPlaces_clashTemplate (contents : Nat → String) :
    fillPlaces contents clashTemplate.text =
      clashMessage (contents 0) (contents 1) (contents 2) := by
  apply String.toList_injective
  rw [fillPlaces, String.toList_ofList, templateParts_clashTemplate]
  simp only [fillParts_append, fillParts_letters, fillParts_place, clashMessage,
    String.toList_append, List.append_assoc]

/-- Each argument is put in at its place, with the later ones filled into it. -/
theorem fillTemplate_clashTemplate (name origins winnerOrigins : String) :
    fillTemplate clashTemplate.text [name, origins, winnerOrigins] =
      clashMessage (fillFrom 1 name [origins, winnerOrigins])
        (fillFrom 2 origins [winnerOrigins]) winnerOrigins := by
  rw [fillTemplate_eq_fillPlaces (separated_messageTemplates clashTemplate_mem),
    fillPlaces_clashTemplate]
  rfl

/-- So the arguments are quoted as they are if and only if the later ones change none of them. -/
theorem fillTemplate_clashTemplate_iff {name origins winnerOrigins : String} :
    fillTemplate clashTemplate.text [name, origins, winnerOrigins] =
        clashMessage name origins winnerOrigins ↔
      fillFrom 1 name [origins, winnerOrigins] = name
      ∧ fillFrom 2 origins [winnerOrigins] = origins := by
  have hplain : fillAtOnce clashTemplate.text [name, origins, winnerOrigins] =
      clashMessage name origins winnerOrigins := fillPlaces_clashTemplate _
  have hseparated := separated_messageTemplates clashTemplate_mem
  constructor
  · intro h
    rw [← hplain, fillTemplate_eq_fillAtOnce_iff hseparated, templateParts_clashTemplate] at h
    exact ⟨h 0 (by simp), h 1 (by simp)⟩
  · rintro ⟨hname, horigins⟩
    rw [fillTemplate_clashTemplate, hname, horigins]

/-! ## The order of targets -/

namespace OutputTarget

/-- The order of the targets of one name. -/
def priority : OutputTarget → OutputTarget → Ordering :=
  compareLex (compareOn (·.originating)) (compareOn (·.contents))

/-- Targets are put in the order of their names first. -/
theorem order_isLE_iff {a b : OutputTarget} :
    (a.order b).isLE ↔ a.name < b.name ∨ a.name = b.name ∧ (a.priority b).isLE := by
  have horder : a.order b = (compare a.name b.name).then (a.priority b) := rfl
  have hlt : compare a.name b.name = .lt ↔ a.name < b.name := compareOfLessAndEq_eq_lt
  have heq : compare a.name b.name = .eq ↔ a.name = b.name := Std.compare_eq_iff_eq
  rw [horder, Ordering.isLE_then_iff_or, hlt, heq]

/-- What a target was generated from, as messages say it. -/
def origins (target : OutputTarget) : String := ", ".intercalate target.originating

/-- The diagnostic of a target that clashes with the one that is kept. Its message has the name of
the target, what it was generated from, and what the kept one was generated from; the latter are
filled into the names before them. -/
structure ReportsClash (target winner : OutputTarget) (diagnostic : Diagnostic) : Prop where
  category : diagnostic.category = .error
  code : diagnostic.code = 4002
  element : diagnostic.element? = some target.name
  message : diagnostic.message =
    clashMessage (fillFrom 1 target.name [target.origins, winner.origins])
      (fillFrom 2 target.origins [winner.origins]) winner.origins

variable {target winner : OutputTarget} {diagnostic : Diagnostic}

/-- **A clash is reported with what its template makes of the names.** -/
theorem reportsClash_diagnostic (target winner : OutputTarget) :
    target.ReportsClash winner
      ((Problem.clashingTarget target.name target.originating winner.originating).diagnostic
        target.name) := by
  have htemplate : messageTemplate? 4002 = some clashTemplate :=
    messageTemplate?_code clashTemplate clashTemplate_mem
  rw [Problem.diagnostic, Problem.code, Diagnostic.ofCode, htemplate]
  exact ⟨rfl, rfl, rfl, fillTemplate_clashTemplate _ _ _⟩

/-- The message has the names as they are if and only if what follows changes none of them. -/
theorem ReportsClash.message_iff (h : target.ReportsClash winner diagnostic) :
    diagnostic.message = clashMessage target.name target.origins winner.origins ↔
      fillFrom 1 target.name [target.origins, winner.origins] = target.name
      ∧ fillFrom 2 target.origins [winner.origins] = target.origins := by
  rw [h.message, ← fillTemplate_clashTemplate, fillTemplate_clashTemplate_iff]

/-- **The message has the names as they are** when no placeholders stand in them. -/
theorem ReportsClash.message_eq (h : target.ReportsClash winner diagnostic)
    (hname : ∀ index ∈ [1, 2], ¬ (placeholder index).toList <:+: target.name.toList)
    (horigins : ¬ (placeholder 2).toList <:+: target.origins.toList) :
    diagnostic.message = clashMessage target.name target.origins winner.origins := by
  refine h.message_iff.2 ⟨fillFrom_of_not_within fun index hle hlt => ?_,
    fillFrom_of_not_within fun index hle hlt => ?_⟩
  · rw [List.length_cons, List.length_singleton] at hlt
    refine hname index ?_
    simp only [List.mem_cons, List.not_mem_nil, or_false]
    omega
  · rw [List.length_singleton] at hlt
    obtain rfl : index = 2 := by omega
    exact horigins

end OutputTarget

/-! ## Keeping the least target of each name -/

/-- What is related to one list item by item has something for each item of it. -/
theorem exists_mem_of_forall₂ {α β : Type} {r : α → β → Prop} {as : List α} {bs : List β}
    (h : List.Forall₂ r as bs) {a : α} (hmem : a ∈ as) : ∃ b ∈ bs, r a b := by
  induction h with
  | nil => cases hmem
  | cons hfirst _ ih =>
    cases hmem with
    | head => exact ⟨_, List.mem_cons_self, hfirst⟩
    | tail _ hmem =>
      obtain ⟨b, hb, hr⟩ := ih hmem
      exact ⟨b, List.mem_cons_of_mem _ hb, hr⟩

/-- Of the targets of each name the least is kept, in the order of their names; each other one is
reported, with the one that is kept. -/
structure KeepsLeast (targets kept : List OutputTarget) (diagnostics : List Diagnostic) : Prop where
  increasing : kept.Pairwise fun a b => a.name < b.name
  least : ∀ winner ∈ kept, ∀ target ∈ targets, winner.name = target.name →
    (winner.priority target).isLE
  reported : ∃ dropped, targets.Perm (kept ++ dropped)
    ∧ List.Forall₂ (fun target diagnostic =>
      ∃ winner ∈ kept, winner.name = target.name ∧ target.ReportsClash winner diagnostic)
      dropped diagnostics

namespace KeepsLeast

variable {targets kept : List OutputTarget} {diagnostics : List Diagnostic}
  {target winner : OutputTarget}

theorem nil : KeepsLeast [] [] [] where
  increasing := .nil
  least _ h := by cases h
  reported := ⟨[], .nil, .nil⟩

/-- The order in which the targets come does not matter. -/
theorem perm (h : KeepsLeast targets kept diagnostics) {targets' : List OutputTarget}
    (hperm : targets.Perm targets') : KeepsLeast targets' kept diagnostics where
  increasing := h.increasing
  least winner hwinner target htarget := h.least winner hwinner target (hperm.mem_iff.2 htarget)
  reported :=
    let ⟨dropped, hdropped, hreported⟩ := h.reported
    ⟨dropped, hperm.symm.trans hdropped, hreported⟩

/-- Kept targets have different names. -/
theorem nodup_names (h : KeepsLeast targets kept diagnostics) : (kept.map (·.name)).Nodup :=
  List.pairwise_map.2 (h.increasing.imp String.ne_of_lt)

/-- Only one target of each name is kept. -/
theorem eq_of_name_eq (h : KeepsLeast targets kept diagnostics) {a b : OutputTarget}
    (ha : a ∈ kept) (hb : b ∈ kept) (hname : a.name = b.name) : a = b :=
  List.inj_on_of_nodup_map h.nodup_names ha hb hname

/-- Kept targets are among the given ones. -/
theorem mem_of_mem_kept (h : KeepsLeast targets kept diagnostics) (hmem : target ∈ kept) :
    target ∈ targets := by
  obtain ⟨dropped, hperm, -⟩ := h.reported
  exact hperm.mem_iff.2 (List.mem_append_left _ hmem)

/-- **A target is kept, or it is reported with the kept one of its name.** -/
theorem mem_or_clash (h : KeepsLeast targets kept diagnostics) (hmem : target ∈ targets) :
    target ∈ kept
    ∨ ∃ diagnostic ∈ diagnostics, ∃ winner ∈ kept,
      winner.name = target.name ∧ target.ReportsClash winner diagnostic := by
  obtain ⟨dropped, hperm, hreported⟩ := h.reported
  exact (List.mem_append.1 (hperm.mem_iff.1 hmem)).imp_right (exists_mem_of_forall₂ hreported)

/-- Some target is kept for each name. -/
theorem exists_kept (h : KeepsLeast targets kept diagnostics) (hmem : target ∈ targets) :
    ∃ winner ∈ kept, winner.name = target.name := by
  obtain hkept | ⟨-, -, winner, hwinner, hname, -⟩ := h.mem_or_clash hmem
  · exact ⟨target, hkept, rfl⟩
  · exact ⟨winner, hwinner, hname⟩

/-- There is one report for each target that is not kept. -/
theorem length_eq (h : KeepsLeast targets kept diagnostics) :
    diagnostics.length + kept.length = targets.length := by
  obtain ⟨dropped, hperm, hreported⟩ := h.reported
  rw [hperm.length_eq, List.length_append, hreported.length_eq, Nat.add_comm]

/-- Targets with different names are all kept. -/
theorem perm_of_nodup (h : KeepsLeast targets kept diagnostics)
    (hnames : (targets.map (·.name)).Nodup) : targets.Perm kept := by
  obtain ⟨dropped, hperm, hreported⟩ := h.reported
  cases hreported with
  | nil => rwa [List.append_nil] at hperm
  | cons hfirst _ =>
    obtain ⟨winner, hwinner, hname, -⟩ := hfirst
    rw [(hperm.map _).nodup_iff, List.map_append, List.nodup_append] at hnames
    exact absurd hname (hnames.2.2 _ (List.mem_map_of_mem hwinner) _ List.mem_cons_self)

/-- **A target that is not less than the kept one of its name is dropped.** -/
theorem drop (h : KeepsLeast targets kept diagnostics) (hwinner : winner ∈ kept)
    (hname : winner.name = target.name) (hle : (winner.priority target).isLE)
    {diagnostic : Diagnostic} (hreport : target.ReportsClash winner diagnostic) :
    KeepsLeast (target :: targets) kept (diagnostic :: diagnostics) where
  increasing := h.increasing
  least other hother := by
    refine List.forall_mem_cons.2 ⟨fun hsame => ?_, h.least other hother⟩
    -- no other kept target has this name
    rwa [h.eq_of_name_eq hother hwinner (hsame.trans hname.symm)]
  reported := by
    obtain ⟨dropped, hperm, hreported⟩ := h.reported
    exact ⟨target :: dropped, (hperm.cons target).trans List.perm_middle.symm,
      .cons ⟨winner, hwinner, hname, hreport⟩ hreported⟩

/-- **A target with a name before all others is kept.** -/
theorem keep (h : KeepsLeast targets kept diagnostics)
    (hname : ∀ target ∈ targets, winner.name < target.name) :
    KeepsLeast (winner :: targets) (winner :: kept) diagnostics where
  increasing :=
    List.pairwise_cons.2 ⟨fun _ hmem => hname _ (h.mem_of_mem_kept hmem), h.increasing⟩
  least := by
    refine List.forall_mem_cons.2 ⟨?_, fun other hother => ?_⟩
    · refine List.forall_mem_cons.2 ⟨fun _ => ?_, fun target hmem hsame => ?_⟩
      · have hself : winner.order winner = .eq := OutputTarget.order_eq_eq_iff.2 ⟨rfl, rfl, rfl⟩
        have hle : (winner.order winner).isLE := by rw [hself]; rfl
        exact ((OutputTarget.order_isLE_iff.1 hle).resolve_left (String.lt_irrefl _)).2
      · exact absurd hsame (String.ne_of_lt (hname target hmem))
    · refine List.forall_mem_cons.2 ⟨fun hsame => ?_, h.least other hother⟩
      exact absurd hsame.symm (String.ne_of_lt (hname other (h.mem_of_mem_kept hother)))
  reported := by
    obtain ⟨dropped, hperm, hreported⟩ := h.reported
    refine ⟨dropped, hperm.cons winner, hreported.imp ?_⟩
    rintro target diagnostic ⟨other, hother, hreport⟩
    exact ⟨other, List.mem_cons_of_mem _ hother, hreport⟩

end KeepsLeast

/-- Clashes are resolved of sorted targets that follow the one kept last. -/
theorem keepsLeast_dropClashes_some {winner : OutputTarget} {targets : List OutputTarget}
    (h : (winner :: targets).Pairwise fun a b => (a.order b).isLE) :
    KeepsLeast (winner :: targets) (winner :: (dropClashes (some winner) targets).targets)
      (dropClashes (some winner) targets).diagnostics := by
  induction targets generalizing winner with
  | nil => exact KeepsLeast.nil.keep fun _ hmem => by cases hmem
  | cons target targets ih =>
    have hle := OutputTarget.order_isLE_iff.1 (List.rel_of_pairwise_cons h List.mem_cons_self)
    rw [dropClashes]
    by_cases hname : winner.name = target.name
    · -- the next target has the name of the one kept last, and is dropped
      rw [Option.filter_some, if_pos (beq_iff_eq.2 hname)]
      have hrest : (winner :: targets).Pairwise fun a b => (a.order b).isLE :=
        h.sublist ((List.sublist_cons_self target targets).cons_cons winner)
      refine ((ih hrest).drop List.mem_cons_self hname ?_
        (OutputTarget.reportsClash_diagnostic target winner)).perm (List.Perm.swap _ _ _)
      exact (hle.resolve_left (hname ▸ String.lt_irrefl _)).2
    · -- the next target has a greater name, as have all that follow
      rw [Option.filter_some, if_neg (mt beq_iff_eq.1 hname)]
      have hlt : winner.name < target.name := hle.resolve_right fun heq => hname heq.1
      have hrest := (List.pairwise_cons.1 h).2
      refine (ih hrest).keep (List.forall_mem_cons.2 ⟨hlt, fun other hother => ?_⟩)
      obtain hother | ⟨hother, -⟩ :=
        OutputTarget.order_isLE_iff.1 (List.rel_of_pairwise_cons hrest hother)
      · exact String.lt_trans hlt hother
      · exact hother ▸ hlt

/-- **Clashes of sorted targets are resolved.** -/
theorem keepsLeast_dropClashes {targets : List OutputTarget}
    (h : targets.Pairwise fun a b => (a.order b).isLE) :
    KeepsLeast targets (dropClashes none targets).targets
      (dropClashes none targets).diagnostics := by
  cases targets with
  | nil => exact .nil
  | cons target targets => exact keepsLeast_dropClashes_some h

/-- A class that two declarations ask for is generated from the one with the lesser name. -/
example :
    let first : OutputTarget := ⟨"model.Pairs", "model/Pairs.java", ["model.Ordered"], ""⟩
    let second : OutputTarget := ⟨"model.Pairs", "model/Pairs.java", ["model.Relation"], ""⟩
    let third : OutputTarget := ⟨"model.SafeCast", "model/SafeCast.java", ["model.Ordered"], ""⟩
    let generation := dropClashes none [first, second, third]
    generation.targets = [first, third]
    ∧ generation.diagnostics.map (·.message) =
      ["Class 'model.Pairs' generated from 'model.Relation' clashes with the one generated from "
        ++ "'model.Ordered' and is skipped."] := by decide +kernel

/-- Dropping targets reports clashes only. -/
theorem code_of_mem_dropClashes {winner? : Option OutputTarget} {targets : List OutputTarget}
    {diagnostic : Diagnostic} (h : diagnostic ∈ (dropClashes winner? targets).diagnostics) :
    diagnostic.code = 4002 := by
  induction targets generalizing winner? with
  | nil => cases h
  | cons first targets ih =>
    rw [dropClashes] at h
    split at h
    · cases List.mem_cons.1 h with
      | inl heq => exact heq ▸ Problem.diagnostic_code _ _
      | inr hmem => exact ih hmem
    · exact ih h

/-! ## Targets of a manifest -/

namespace Manifest

variable (options : GenerationOptions) {manifest : Manifest}

/-- Of all that is reported, clashes come from dropping targets only. -/
theorem clashes_generate :
    (manifest.generate options).diagnostics.filter (·.code == 4002) =
      (dropClashes none
        ((manifest.candidates options).mergeSort fun a b => (a.order b).isLE)).diagnostics := by
  have hcollect : manifest.collect.diagnostics.filter (·.code == 4002) = [] :=
    filter_code_eq_nil (fun _ hmem => code_of_mem_collectFrom hmem) (by decide)
  have hgrouping : manifest.grouping.diagnostics.filter (·.code == 4002) = [] :=
    filter_code_eq_nil (fun _ hmem => code_of_mem_grouping hmem) (by decide)
  rw [generate_eq]
  simp only [List.filter_append, hcollect, hgrouping, List.nil_append]
  rw [List.filter_eq_self]
  intro diagnostic hmem
  rw [code_of_mem_dropClashes hmem]
  rfl

/-- What is generated from a manifest keeps the least of all its targets. -/
theorem keepsLeast_generate :
    KeepsLeast (manifest.candidates options) (manifest.generate options).targets
      ((manifest.generate options).diagnostics.filter (·.code == 4002)) := by
  rw [clashes_generate]
  exact (keepsLeast_dropClashes (pairwise_mergeSort_targets _)).perm (List.mergeSort_perm _ _)

/-- Only candidates are generated. -/
theorem mem_candidates_of_mem_targets {options : GenerationOptions} {target : OutputTarget}
    (h : target ∈ (manifest.generate options).targets) : target ∈ manifest.candidates options :=
  (keepsLeast_generate options).mem_of_mem_kept h

/-- Generated targets have different names. -/
theorem nodup_target_names : ((manifest.generate options).targets.map (·.name)).Nodup :=
  (keepsLeast_generate options).nodup_names

/-- A generated target has the name of each candidate. -/
theorem exists_target_of_candidate {options : GenerationOptions} {candidate : OutputTarget}
    (h : candidate ∈ manifest.candidates options) :
    ∃ target ∈ (manifest.generate options).targets, target.name = candidate.name :=
  (keepsLeast_generate options).exists_kept h

/-- A candidate is generated or reported as clashing. -/
theorem mem_targets_or_clash {target : OutputTarget} (h : target ∈ manifest.candidates options) :
    target ∈ (manifest.generate options).targets
    ∨ ∃ diagnostic ∈ (manifest.generate options).diagnostics,
      diagnostic.code = 4002 ∧ diagnostic.element? = some target.name := by
  refine ((keepsLeast_generate options).mem_or_clash h).imp_right ?_
  rintro ⟨diagnostic, hmem, winner, -, -, hreport⟩
  exact ⟨diagnostic, (List.mem_filter.1 hmem).1, hreport.code, hreport.element⟩

/-- **Clashing targets are resolved without loss.** There is one candidate for the holder of each
package and one for each container. Their names are those of the generated files, each once and in
increasing order, and of the candidates of one name the least is generated. All others are dropped,
and for each of them a clash with the one that is generated is reported. The message of a clash has
the names as they are if and only if filling in what the two were generated from changes none of
them, and so whenever no placeholders stand in them. -/
theorem clashes_resolved (manifest : Manifest) :
    let generation := manifest.generate options
    let candidates := manifest.candidates options
    let clashes := generation.diagnostics.filter (·.code == 4002)
    candidates.length = manifest.grouping.packages.length + manifest.collect.containers.length
    ∧ generation.targets.Pairwise (fun a b => a.name < b.name)
    ∧ (∀ target ∈ candidates, ∃! winner, winner ∈ generation.targets ∧ winner.name = target.name)
    ∧ (∀ winner ∈ generation.targets, winner ∈ candidates
      ∧ ∀ target ∈ candidates, winner.name = target.name → (winner.priority target).isLE)
    ∧ clashes.length + generation.targets.length = candidates.length
    ∧ ∃ dropped, candidates.Perm (generation.targets ++ dropped)
      ∧ List.Forall₂ (fun target diagnostic =>
        ∃ winner ∈ generation.targets, winner.name = target.name
          ∧ target.ReportsClash winner diagnostic
          ∧ (diagnostic.message = clashMessage target.name target.origins winner.origins ↔
            fillFrom 1 target.name [target.origins, winner.origins] = target.name
            ∧ fillFrom 2 target.origins [winner.origins] = target.origins)
          ∧ ((∀ index ∈ [1, 2], ¬ (placeholder index).toList <:+: target.name.toList) →
            ¬ (placeholder 2).toList <:+: target.origins.toList →
            diagnostic.message = clashMessage target.name target.origins winner.origins))
        dropped clashes := by
  intro generation candidates clashes
  have hkeeps : KeepsLeast candidates generation.targets clashes :=
    keepsLeast_generate options
  obtain ⟨dropped, hperm, hreported⟩ := hkeeps.reported
  refine ⟨?_, hkeeps.increasing, fun target hmem => ?_, fun winner hmem => ?_, hkeeps.length_eq,
    dropped, hperm, hreported.imp ?_⟩
  · rw [show candidates = manifest.candidates options from rfl, Manifest.candidates,
      List.length_append, List.length_map, List.length_map]
  · obtain ⟨winner, hwinner, hname⟩ := hkeeps.exists_kept hmem
    refine ⟨winner, ⟨hwinner, hname⟩, ?_⟩
    rintro other ⟨hother, hsame⟩
    exact hkeeps.eq_of_name_eq hother hwinner (hsame.trans hname.symm)
  · exact ⟨hkeeps.mem_of_mem_kept hmem, hkeeps.least winner hmem⟩
  · rintro target diagnostic ⟨winner, hwinner, hname, hreport⟩
    exact ⟨winner, hwinner, hname, hreport, hreport.message_iff, hreport.message_eq⟩

/-- The class that a declaration asks for is asked for by no holder and by no other declarations
than these two. -/
theorem originating_of_candidate_relation {target : OutputTarget}
    (h : target ∈ (⟨[relationDeclaration, orderedDeclaration]⟩ : Manifest).candidates .standard)
    (hname : target.name = "model.RelationMap") :
    target.originating = ["model.Relation"] ∨ target.originating = ["model.Ordered"] := by
  rcases List.mem_append.1 h with h | h
  · -- a holder has another simple name
    obtain ⟨package, -, rfl⟩ := List.mem_map.1 h
    have hqualified : qualify package.packageName "SafeCast" = qualify "model" "RelationMap" :=
      hname
    rw [qualify_inj (by decide +kernel) (by decide +kernel)] at hqualified
    exact absurd hqualified.2 (by decide)
  · have hall : ∀ container ∈
        (⟨[relationDeclaration, orderedDeclaration]⟩ : Manifest).collect.containers,
        container.declaringType.qualifiedName = "model.Relation"
        ∨ container.declaringType.qualifiedName = "model.Ordered" := by decide +kernel
    obtain ⟨container, hcontainer, rfl⟩ := List.mem_map.1 h
    exact (hall container hcontainer).imp (congrArg fun name => [name])
      (congrArg fun name => [name])

/-- Two declarations that ask for the same container: it is not generated from the one that comes
first in the manifest, as the other one has a lesser name. The message has the names as they are. -/
theorem clashes_resolved_relation :
    let manifest : Manifest := ⟨[relationDeclaration, orderedDeclaration]⟩
    let generation := manifest.generate .standard
    ∃ first ∈ manifest.candidates .standard, ∃ second ∈ manifest.candidates .standard,
      first.name = "model.RelationMap" ∧ first.originating = ["model.Relation"]
      ∧ second.name = "model.RelationMap" ∧ second.originating = ["model.Ordered"]
      ∧ first ∉ generation.targets
      ∧ (∃! winner, winner ∈ generation.targets ∧ winner.name = "model.RelationMap")
      ∧ ∃ diagnostic ∈ generation.diagnostics, diagnostic.code = 4002
        ∧ diagnostic.element? = some "model.RelationMap"
        ∧ diagnostic.message =
          clashMessage "model.RelationMap" "model.Relation" "model.Ordered" := by
  intro manifest generation
  obtain ⟨-, -, hunique, hleast, -, dropped, hperm, hreported⟩ :=
    clashes_resolved .standard manifest
  have hcontainers : manifest.collect.containers.map
        (fun container => (container.qualifiedClassName, [container.declaringType.qualifiedName])) =
      [("model.RelationMap", ["model.Relation"]), ("model.RelationMap", ["model.Ordered"])] := by
    decide +kernel
  have hcandidate : ∀ name originating,
      (name, originating) ∈ manifest.collect.containers.map (fun container =>
        (container.qualifiedClassName, [container.declaringType.qualifiedName])) →
      ∃ target ∈ manifest.candidates .standard,
        target.name = name ∧ target.originating = originating := by
    intro name originating hmem
    obtain ⟨container, hcontainer, heq⟩ := List.mem_map.1 hmem
    exact ⟨container.target .standard,
      List.mem_append_right _ (List.mem_map_of_mem hcontainer), congrArg Prod.fst heq,
      congrArg Prod.snd heq⟩
  rw [hcontainers] at hcandidate
  obtain ⟨first, hfirst, hname, hfrom⟩ := hcandidate _ _ List.mem_cons_self
  obtain ⟨second, hsecond, hname', hfrom'⟩ :=
    hcandidate _ _ (List.mem_cons_of_mem _ List.mem_cons_self)
  -- a kept target is least, and the first one is not
  have hkept : ∀ target ∈ generation.targets, target.name = "model.RelationMap" →
      target.originating ≠ ["model.Relation"] := by
    intro target htarget htargetName htargetFrom
    have hle := (hleast target htarget).2 second hsecond (htargetName.trans hname'.symm)
    have hgt : compare target.originating second.originating = .gt := by
      rw [htargetFrom, hfrom']
      decide +kernel
    rw [OutputTarget.priority, compareLex, compareOn, hgt] at hle
    cases hle
  refine ⟨first, hfirst, second, hsecond, hname, hfrom, hname', hfrom',
    fun hmem => hkept first hmem hname hfrom, hname ▸ hunique first hfirst, ?_⟩
  have hdropped : first ∈ dropped :=
    (List.mem_append.1 (hperm.mem_iff.1 hfirst)).resolve_left fun hmem =>
      hkept first hmem hname hfrom
  obtain ⟨diagnostic, hmem, winner, hwinner, hsame, hreport, -, hmessage⟩ :=
    exists_mem_of_forall₂ hreported hdropped
  have hwinnerName : winner.name = "model.RelationMap" := hsame.trans hname
  have hwinnerFrom : winner.originating = ["model.Ordered"] :=
    (originating_of_candidate_relation (hleast winner hwinner).1 hwinnerName).resolve_left
      (hkept winner hwinner hwinnerName)
  refine ⟨diagnostic, (List.mem_filter.1 hmem).1, hreport.code, hname ▸ hreport.element, ?_⟩
  rw [OutputTarget.origins, OutputTarget.origins, hname, hfrom, hwinnerFrom] at hmessage
  exact hmessage (by decide +kernel) (by decide +kernel)

end Manifest

/-- A declaration in a package that is named like a placeholder, which asks for a container. -/
def bracedDeclaration (name : String) : TypeDeclaration where
  name
  packageName := "{2}"
  visibility := .everywhere
  typeParameters := [⟨"A", []⟩, ⟨"B", []⟩]
  superclass? := some "Map<A, B>"
  markers := [.container "Pairs"]
  members := []

/-- **Names in which placeholders stand are not said.** The name of the declaration that the dropped
class was generated from does not stand in the message: what the kept one was generated from has
been filled into it. -/
theorem Manifest.clash_not_quoted :
    let manifest : Manifest := ⟨[bracedDeclaration "Ordered", bracedDeclaration "Relation"]⟩
    let generation := manifest.generate .standard
    (manifest.candidates .standard).map (fun target => (target.name, target.originating)) =
      [("{2}.Pairs", ["{2}.Ordered"]), ("{2}.Pairs", ["{2}.Relation"])]
    ∧ generation.targets.map (fun target => (target.name, target.originating)) =
      [("{2}.Pairs", ["{2}.Ordered"])]
    ∧ generation.diagnostics.map (fun diagnostic => (diagnostic.code, diagnostic.element?)) =
      [(4002, some "{2}.Pairs")]
    ∧ ∀ diagnostic ∈ generation.diagnostics,
      diagnostic.message = "Class '{2}.Ordered.Pairs' generated from '{2}.Ordered.Relation' "
        ++ "clashes with the one generated from '{2}.Ordered' and is skipped."
      ∧ ¬ "{2}.Relation".toList <:+: diagnostic.message.toList := by
  intro manifest
  -- the candidates are in order, so that sorting them leaves them as they are
  have hsorted : (manifest.candidates .standard).mergeSort (fun a b => (a.order b).isLE) =
      manifest.candidates .standard :=
    List.mergeSort_of_pairwise (by decide +kernel)
  rw [generate_eq, hsorted]
  decide +kernel

end TypeWitness
