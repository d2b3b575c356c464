import Companion.Proofs.Generate.Completeness

/-! What is reported on units that a sink refuses.

The reasons that sinks and parsers give are put into messages as arguments, which stand in a message
as they are. They are escaped all the same, as texts in templates are, so that each dollar sign of
theirs arrives twice.
-/

set_option autoImplicit false

namespace Companion.Template

theorem length_escapeChars (cs : List Char) :
    (escapeChars cs).length = cs.length + cs.count '$' := by
  fun_induction escapeChars cs with
  | case1 => rfl
  | case2 rest ih => simp only [List.length_cons, ih, List.count_cons_self]; omega
  | case3 c rest noDollar ih =>
    rw [List.length_cons, ih, List.length_cons, List.count_cons_of_ne (fun same => noDollar same)]
    omega

/-- Only texts without dollar signs are their own templates. -/
theorem escape_eq_self_iff {text : String} : escape text = text ↔ '$' ∉ text.toList := by
  refine ⟨fun same => ?_, escape_of_not_mem⟩
  have size := length_escapeChars text.toList
  rw [show escapeChars text.toList = text.toList from by
    simpa [escape, Text.onChars] using congrArg String.toList same] at size
  exact List.count_eq_zero.mp (by omega)

end Companion.Template

namespace Companion

variable {σ : Type}

/-- A file that a sink refused, and why. -/
structure Rejection where
  file : String
  reason : String
  deriving DecidableEq, Repr

def Rejection.told (file : String) : Except String Unit → List Rejection
  | .ok () => []
  | .error reason => [⟨file, reason⟩]

/-- A sink that also keeps what it refused, in order. -/
def Sink.rejecting (sink : Sink (StateM σ)) : Sink (StateM (σ × List Rejection)) :=
  fun file contents (s, kept) =>
    let (verdict, s) := (sink file contents).run s
    (verdict, s, kept ++ Rejection.told file verdict)

/-- A report on a unit that was refused. -/
def Diagnostic.isRefusal (d : Diagnostic) : Bool := d.template == "The $ could not be written: $"

namespace Run

/-- A unit of a job that was refused, and why. -/
structure Refused where
  job : Job
  unit : Artifact
  reason : String

namespace Refused

def rejection (x : Refused) : Rejection := ⟨x.unit.fileName, x.reason⟩

def report (x : Refused) : Diagnostic :=
  refusal x.job.location x.unit (.sink x.unit.fileName x.reason)

/-- What a sink's answer to a unit refuses. -/
def told (j : Job) (a : Artifact) : Except String Unit → List Refused
  | .ok () => []
  | .error reason => [⟨j, a, reason⟩]

theorem rejection_told (j : Job) (a : Artifact) (answer : Except String Unit) :
    (told j a answer).map rejection = Rejection.told a.fileName answer := by
  cases answer <;> rfl

/-- What is known of a unit of a run that was refused. -/
structure IsOf (r : Run) (x : Refused) : Prop where
  kind : x.unit.kind ∈ x.job.declaration.artifacts
  outputName : x.unit.outputName = r.config.naming.outputName x.job.declaration.name x.unit.kind
  fileName : x.unit.fileName = r.config.naming.fileName x.job.declaration.name x.unit.kind

end Refused

/-- The units of a job that were refused, by the answers that they got. -/
def refusedOf (j : Job) : List Artifact → List (Except String Unit) → List Refused
  | a :: units, answer :: said => Refused.told j a answer ++ refusedOf j units said
  | _, _ => []

variable {r : Run} {j : Job} {g : Generation} {kind : ArtifactKind} {sink : Sink (StateM σ)} {s : σ}

/-! ### One declaration -/

theorem entries_refusals (j : Job) (units : List Artifact) (said : List (Except String Unit)) :
    (refusals j.location units said).entries = (refusedOf j units said).map Refused.report := by
  induction units generalizing said with
  | nil => rfl
  | cons a units ih =>
    rcases said with _ | ⟨_ | reason, said⟩
    · rfl
    · exact congrArg (_ :: ·) (ih said)
    · exact ih said

theorem mem_refusedOf {units : List Artifact} {said : List (Except String Unit)} {x : Refused}
    (member : x ∈ refusedOf j units said) : x.job = j ∧ x.unit ∈ units := by
  fun_induction refusedOf j units said with
  | case1 a units answer said ih =>
    rcases List.mem_append.mp member with here | later
    · cases answer with
      | ok => cases here
      | error reason =>
        cases List.mem_singleton.mp here
        exact ⟨rfl, List.mem_cons_self ..⟩
    · exact (ih later).imp_right (List.mem_cons_of_mem _)
  | case2 => cases member

/-- What is kept of units that are handed over. -/
theorem answers_rejecting (sink : Sink (StateM σ)) (j : Job) (units : List Artifact) (s : σ)
    (kept : List Rejection) : ∃ said s',
      (answers sink.rejecting units).run (s, kept) =
        (said, s', kept ++ (refusedOf j units said).map Refused.rejection) := by
  induction units generalizing s kept with
  | nil => exact ⟨[], s, by simp [answers, refusedOf]; rfl⟩
  | cons a units ih =>
    obtain ⟨answer, s₁, first⟩ : ∃ answer s₁,
        (sink a.fileName a.state.content).run s = (answer, s₁) := ⟨_, _, rfl⟩
    have keeps : (sink.rejecting a.fileName a.state.content).run (s, kept) =
        (answer, s₁, kept ++ Rejection.told a.fileName answer) := by
      change sink.rejecting a.fileName a.state.content (s, kept) = _
      rw [Sink.rejecting, first]
    obtain ⟨said, s₂, ran⟩ := ih s₁ (kept ++ Rejection.told a.fileName answer)
    refine ⟨answer :: said, s₂, (run_answers_cons keeps ran).trans ?_⟩
    rw [refusedOf, List.map_append, Refused.rejection_told, List.append_assoc]

/-- Nothing that is reported before a sink is reached is on a refusal. -/
theorem filter_prepared (generous : r.IsGenerous) (j : Job) :
    (r.prepared j).diagnostics.filter (·.isRefusal) = [] := by
  rw [List.filter_eq_nil_iff, (prepared_of_isGenerous generous j).2]
  intro d member isRefusal
  have template : d.template = "The $ could not be written: $" := beq_iff_eq.mp isRefusal
  rcases List.mem_append.mp member with check | unparsed
  · exact (r.reports_generation j d check).1.template_ne (by decide) template
  · cases known : (r.generation j).value with
    | none =>
      rw [known] at unparsed
      cases unparsed
    | some g =>
      rw [known] at unparsed
      obtain ⟨kind, -, rfl⟩ := List.mem_map.mp unparsed
      exact absurd template (by simp [parseWarning])

theorem filter_refusals (j : Job) (units : List Artifact) (said : List (Except String Unit)) :
    (refusals j.location units said).entries.filter (·.isRefusal) =
      (refusedOf j units said).map Refused.report := by
  rw [entries_refusals, List.filter_eq_self]
  intro d member
  obtain ⟨x, -, rfl⟩ := List.mem_map.mp member
  rfl

/-- The step: one declaration is processed. -/
theorem process_rejecting (generous : r.IsGenerous) (sink : Sink (StateM σ)) (j : Job) (s : σ)
    (kept : List Rejection) : ∃ (refused : List Refused) (product : Product) (s' : σ),
      (r.process sink.rejecting j).run (s, kept) =
        (product, s', kept ++ refused.map Refused.rejection) ∧
      product.2.entries.filter (·.isRefusal) = refused.map Refused.report ∧
      ∀ x ∈ refused, x.job = j ∧ x.IsOf r := by
  obtain ⟨said, s', ran⟩ := answers_rejecting sink j (r.unitsOf j) s kept
  refine ⟨refusedOf j (r.unitsOf j) said, (.ok (r.recordFor j said), r.reportsFor j said), s',
    by rw [process_eq, StateT.run_map, ran]; rfl, ?_, fun x member => ?_⟩
  · change ((r.prepared j).diagnostics ++ (refusals j.location (r.unitsOf j) said).entries).filter
      _ = _
    rw [List.filter_append, filter_prepared generous, filter_refusals, List.nil_append]
  · obtain ⟨rfl, listed⟩ := mem_refusedOf member
    obtain ⟨kind, g, -, unit⟩ := unitsOf_spec listed
    exact ⟨rfl, kind, unit.outputName, unit.fileName⟩

/-! ### All declarations -/

/-- The run: what the sink refused is what the refusals that are reported are on. -/
theorem replay_rejecting (generous : r.IsGenerous) {s s' : σ} {kept kept' : List Rejection}
    {generated : List Processed}
    (replayed : ((generated.map (·.job)).mapM (r.process sink.rejecting)).run (s, kept) =
      (generated.map (·.product), s', kept')) :
    ∃ refused : List Refused, kept' = kept ++ refused.map Refused.rejection ∧
      (generated.flatMap (·.product.2.entries)).filter (·.isRefusal) =
        refused.map Refused.report ∧
      ∀ x ∈ refused, x.job ∈ generated.map (·.job) ∧ x.IsOf r := by
  induction generated generalizing s kept with
  | nil =>
    cases replayed
    exact ⟨[], by simp, rfl, by simp⟩
  | cons y generated ih =>
    obtain ⟨first, product, s₁, ran, reported, known⟩ :=
      process_rejecting generous sink y.job s kept
    obtain ⟨products, s₂, others⟩ : ∃ products s₂,
        ((generated.map (·.job)).mapM (r.process sink.rejecting)).run
          (s₁, kept ++ first.map Refused.rejection) = (products, s₂) := ⟨_, _, rfl⟩
    obtain ⟨same, rfl⟩ := Prod.mk.inj ((run_mapM_cons ran others).symm.trans replayed)
    obtain ⟨rfl, rfl⟩ := List.cons.inj same
    obtain ⟨refused, rfl, reports, others⟩ := ih others
    refine ⟨first ++ refused, by rw [List.map_append, List.append_assoc], ?_, fun x member => ?_⟩
    · rw [List.flatMap_cons, List.filter_append, reported, reports, List.map_append]
    · rcases List.mem_append.mp member with here | later
      · obtain ⟨job, isOf⟩ := known x here
        exact ⟨job ▸ List.mem_cons_self .., isOf⟩
      · exact (others x later).imp_left (List.mem_cons_of_mem _)

/-! ### What the messages say -/

theorem message_refusal (l : Location) (a : Artifact) (e : EmitError) :
    (refusal l a e).message =
      "The " ++ a.outputName ++ " could not be written: " ++ Template.escape e.message := by
  apply String.toList_injective
  simp [refusal, Diagnostic.message, Template.substitute, Template.fill]

/-- The text of a unit as it is written, and what is reported with the reason that a parser gives. -/
def finishTextWith (r : Run) (explain : String → String) (j : Job) (g : Generation)
    (kind : ArtifactKind) (code : String) : Checked String :=
  let parsed := Code.checkedUnit? code
  let body := match parsed with
    | some body => if r.config.autoFormat then r.layout body else body
    | none => code
  .noted
    (if r.config.provenance then Code.withHeader (provenance j g.model kind) body else body)
    (if parsed.isSome then [] else
      [⟨.warning, "The generated $ does not parse and is written unformatted: $",
        [g.outputName kind, Template.escape ("generated code does not parse: " ++ explain code)],
        j.location⟩])

theorem finishTextWith_unexplained (r : Run) (j : Job) (g : Generation) (kind : ArtifactKind)
    (code : String) :
    r.finishTextWith (fun _ => Text.unexplained) j g kind code = r.finishText j g kind code := rfl

/-- What is said of a unit that does not parse, with a text for the reason. -/
def unparsedMessage (g : Generation) (kind : ArtifactKind) (reason : String) : String :=
  "The generated " ++ g.outputName kind ++ " does not parse and is written unformatted: " ++ reason

theorem messages_finishTextWith (r : Run) (explain : String → String) (j : Job) (g : Generation)
    (kind : ArtifactKind) (code : String) :
    (r.finishTextWith explain j g kind code).diagnostics.map (·.message) =
      if Code.isFile code then [] else [unparsedMessage g kind
        (Template.escape ("generated code does not parse: " ++ explain code))] := by
  unfold finishTextWith Code.checkedUnit?
  split
  · rfl
  · refine congrArg (fun message => [message]) (String.toList_injective ?_)
    delta unparsedMessage
    simp [Diagnostic.message, Template.substitute, Template.fill]

theorem unparsedMessage_escape_iff {reason : String} :
    unparsedMessage g kind (Template.escape ("generated code does not parse: " ++ reason)) =
        unparsedMessage g kind ("generated code does not parse: " ++ reason) ↔
      '$' ∉ reason.toList := by
  delta unparsedMessage
  rw [String.append_right_inj, Template.escape_eq_self_iff]
  simp

namespace Refused

/-- What is wrong, in the words of the sink. -/
def explanation (x : Refused) : String :=
  "failed to write " ++ x.unit.fileName ++ ": " ++ x.reason

/-- What is said of a unit that was refused, with a text for the reason. -/
def messageWith (x : Refused) (reason : String) : String :=
  "The " ++ x.unit.outputName ++ " could not be written: " ++ reason

theorem message_report (x : Refused) :
    x.report.message = x.messageWith (Template.escape x.explanation) := by
  rw [report, message_refusal]
  unfold messageWith explanation EmitError.message
  exact Eq.refl _

theorem messageWith_escape_iff {x : Refused} :
    x.messageWith (Template.escape x.explanation) = x.messageWith x.explanation ↔
      '$' ∉ x.unit.fileName.toList ∧ '$' ∉ x.reason.toList := by
  unfold messageWith explanation
  rw [String.append_right_inj, Template.escape_eq_self_iff]
  simp

end Refused

end Run

open Run

/-- What is said of what a sink refused, and of what a parser did not read: their own words, with
each dollar sign twice. -/
structure Ending.TellsReasons (r : Run) (e : Ending (σ × List Rejection)) (refused : List Refused) :
    Prop where
  rejections : e.sinkState.2 = refused.map Refused.rejection
  reported : (e.reported.filter (·.isRefusal)).Perm (refused.map Refused.report)
  known : ∀ x ∈ refused, x.job ∈ r.jobs ∧ x.IsOf r
  said : ∀ x ∈ refused, x.report.message = x.messageWith (Template.escape x.explanation)
  verbatim_iff : ∀ x ∈ refused, x.report.message = x.messageWith x.explanation ↔
    '$' ∉ x.unit.fileName.toList ∧ '$' ∉ x.reason.toList

/-- Whatever the configuration, the declarations, the sink and the order in which workers take
turns: each refusal of the sink is reported once, under the names of the configuration, and with the
words of the sink if no dollar sign is in them. So are the words of a parser on a unit that does not
parse. Dollar signs are said twice. -/
theorem run_tellsReasons (layout : String → String) (config : Config)
    (sources : List DeclarationSource) (sink : Sink (StateM σ)) (s : σ)
    (e : Ending (σ × List Rejection))
    (ended : (ofSourcesWith layout config sources).Ends sink.rejecting (s, []) e) :
    (∃ refused, e.TellsReasons (ofSourcesWith layout config sources) refused) ∧
      ∀ (explain : String → String) j g kind code,
        ((ofSourcesWith layout config sources).finishTextWith explain j g kind code).diagnostics.map
            (·.message) =
          (if Code.isFile code then [] else [unparsedMessage g kind
            (Template.escape ("generated code does not parse: " ++ explain code))]) ∧
        (unparsedMessage g kind
            (Template.escape ("generated code does not parse: " ++ explain code)) =
          unparsedMessage g kind ("generated code does not parse: " ++ explain code) ↔
            '$' ∉ (explain code).toList) := by
  refine ⟨?_, fun explain j g kind code =>
    ⟨messages_finishTextWith .., unparsedMessage_escape_iff⟩⟩
  obtain ⟨generated, flushed, inOrder, records, known⟩ := explained_of_ends ended
  obtain ⟨refused, rejections, reports, ofRun⟩ :=
    replay_rejecting (isGenerous layout config sources) known.replayed
  refine ⟨refused, by simpa using rejections, ?_, fun x member => ?_, fun x _ => x.message_report,
    fun x _ => by rw [x.message_report]; exact Refused.messageWith_escape_iff⟩
  · rw [← reports, known.reported]
    have same := known.sameFlushed.trans known.sameGenerated.symm
    exact (same.flatMap_right _).filter _
  · obtain ⟨job, isOf⟩ := ofRun x member
    refine ⟨?_, isOf⟩
    rw [← known.jobs]
    exact (known.sameGenerated.map _).mem_iff.mp job

/-- A dollar sign in the reason of a sink. -/
theorem run_tellsReasons_dollar :
    let run := ofSourcesWith id .standard
      [⟨none, default, [⟨"Point", none, [], [.subclass], [], [], none⟩]⟩]
    let e := run.inTurn (MemorySink.sink fun _ => some "read-only $ disk").rejecting (.empty, [])
    ∃ x, e.TellsReasons run [x] ∧ x.rejection = ⟨"point_subclass.rs", "read-only $ disk"⟩ ∧
      x.report.message ≠ x.messageWith x.explanation := by
  intro run e
  have ended : run.Ends _ _ e := .inTurn rfl
  obtain ⟨refused, told⟩ := (run_tellsReasons id .standard _ _ _ e ended).1
  have rejected : e.sinkState.2 = [⟨"point_subclass.rs", "read-only $ disk"⟩] := by decide +kernel
  rw [told.rejections] at rejected
  obtain ⟨x, rfl, same⟩ := List.map_eq_singleton_iff.mp rejected
  refine ⟨x, told, same, fun verbatim => ?_⟩
  have reason : x.reason = "read-only $ disk" := congrArg Rejection.reason same
  have none := ((told.verbatim_iff x (List.mem_singleton_self x)).mp verbatim).2
  rw [reason] at none
  exact absurd none (by decide)

end Companion
