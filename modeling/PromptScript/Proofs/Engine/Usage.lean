import PromptScript.Proofs.Engine.Growth
import PromptScript.Proofs.Engine.Placement
import PromptScript.Proofs.Session.Resumption

/-!
# Usage of a session

The counters of a session go up with every completion that is read, over any number of runs and
through stored sessions.  A reply may report any words of 64 bits, and the counters hold the sums of
what was reported modulo 2 ^ 64, which are the sums themselves exactly as long as these are words
too.
-/

namespace PromptScript

/-! ## Reports -/

@[simp]
theorem Json.asNat?_ofNat (count : Nat) : (ofNat count).asNat? = some count := rfl

namespace Backend

/-- A reply without a text that reports some usage. -/
def report (backend : Backend) (usage : TokenUsage) : Json :=
  let tokensIn : Json := .ofNat usage.tokensIn.toNat
  let tokensOut : Json := .ofNat usage.tokensOut.toNat
  match backend with
  | openAi _ | mistral =>
    .object [("choices", .array [.object [("message", .object [])]]),
      ("usage", .object [("prompt_tokens", tokensIn), ("completion_tokens", tokensOut)])]
  | anthropic =>
    .object [("content", .array []),
      ("usage", .object [("input_tokens", tokensIn), ("output_tokens", tokensOut)])]
  | google =>
    .object [("candidates", .array [.object []]),
      ("usageMetadata", .object [("promptTokenCount", tokensIn),
        ("candidatesTokenCount", tokensOut)])]

/-- Every usage is reported by some reply that a backend accepts. -/
theorem parseReply_report (backend : Backend) (usage : TokenUsage) :
    backend.parseReply (backend.report usage) = .ok (⟨.assistant, []⟩, usage) := by
  cases backend with
  | anthropic =>
      simp [report, parseReply, Anthropic.parseReply, tokenCount, textMember?, Json.asArray?]
  | google =>
      simp [report, parseReply, Google.parseReply, tokenCount, errorMessage?, firstItem?,
        Json.asArray?]
  | openAi service =>
      simp [report, parseReply, OpenAi.parseReply, OpenAi.replyMessage, OpenAi.decodeContent,
        OpenAi.usageOf, tokenCount, errorMessage?, firstItem?, textMember?, Json.asArray?]
  | mistral =>
      simp [report, parseReply, Mistral.parseReply, OpenAi.replyMessage, Mistral.decodeContent,
        OpenAi.usageOf, tokenCount, errorMessage?, firstItem?, Json.asArray?]

/-- The usage that a backend reads from a reply, if it accepts the reply. -/
def reported? (backend : Backend) (reply : Except RunError Json) : Option TokenUsage :=
  (reply.bind backend.parseReply).toOption.map Prod.snd

theorem reported?_report (backend : Backend) (usage : TokenUsage) :
    backend.reported? (.ok (backend.report usage)) = some usage := by
  simp [reported?, Except.bind, parseReply_report, Except.toOption]

end Backend

/-- What is counted is what the accepted replies report, whatever the model costs. -/
theorem Exchange.usage_completions (backend : Backend) (model : Model)
    (replies : List (Except RunError Json)) :
    (completions backend model replies).map Completion.usage =
      replies.filterMap backend.reported? := by
  rw [completions, List.map_filterMap]
  refine List.filterMap_congr fun reply _ => ?_
  cases reply with
  | error error => rfl
  | ok body =>
      rw [Backend.reported?]
      simp only [Except.bind, Backend.decode]
      cases backend.parseReply body <;> rfl

namespace Exchange

variable {settings : Settings} {plan : Plan} {state : ExecutionState} {world refreshed : World}
  {model : Model} {usage : TokenUsage} {rest : List (Except RunError Json)}

/-- A report asks for no function, so a conversation with the model ends with it. -/
theorem converse_of_report {request : WireRequest} (hpaired : state.conversation.Paired)
    (hrequest : plan.backend.encode state.conversation plan.tools plan.params = .ok request)
    (hreplies : world.replies = .ok (plan.backend.report usage) :: rest) (rounds : Nat) :
    ∃ next later, converse settings plan rounds state world = (.ok (), next, later) ∧
      later.replies = rest := by
  have hsend : world.send plan.model.provider request = (.ok (plan.backend.report usage),
      { world with requests := world.requests ++ [request], replies := rest }) := by
    rw [World.send, hreplies]
  have hdecode : plan.backend.decode (plan.backend.report usage) plan.model =
      .ok (.priced [⟨.assistant, []⟩] usage plan.model) := by
    rw [Backend.decode, Backend.parseReply_report]
    rfl
  unfold converse
  rw [turn, hpaired]
  simp only [hrequest, hsend, hdecode]
  exact ⟨_, _, rfl, rfl⟩

/-- An exchange that comes to its first request takes the report that is the next reply, and no
further reply. -/
theorem replies_of_report (hplaced : state.conversation.Placed)
    (hpaired : state.conversation.Paired) (hmodel : resolveModel settings state = .ok model)
    (hrefresh : world.refreshFunctions settings = (.ok (), refreshed))
    (hplan : Exchange.plan settings state refreshed.registry model = .ok plan)
    (hreplies : world.replies = .ok (plan.backend.report usage) :: rest) :
    (run settings state world).2.2.replies = rest := by
  have hasks := Asks.intro hmodel hrefresh hplan (.refl _ _)
  obtain ⟨request, hrequest⟩ := hasks.encodes hplaced
  have hframe : refreshed.replies = world.replies := by
    rw [← (Prod.mk.inj hrefresh).2]
  obtain ⟨next, later, hconverse, hlater⟩ : ∃ next later,
      converse settings plan settings.maxToolRounds { state with
        activeModel := some model.name
        activeProvider := some model.provider } refreshed = (.ok (), next, later) ∧
      later.replies = rest := by
    refine converse_of_report ?_ hrequest (hframe.trans hreplies) _
    exact hpaired
  simp only [run, hmodel, hrefresh, hplan, hconverse]
  split <;> exact hlater

end Exchange

/-! ## Sums -/

namespace Counters

variable {counters : Counters} {completions : List Completion}

end Counters

/-! ## Sessions -/

namespace Engine

/-- What the holder of an engine makes of it between steps. -/
inductive Handles : Engine → Engine → Prop
  | withFilename (engine : Engine) (filename : String) :
      Handles engine (engine.withFilename filename)
  | setVariable {engine next : Engine} {name : String} {value : Json}
      (hset : engine.setVariable name value = .ok next) : Handles engine next
  | suspend (engine : Engine) : Handles engine engine.suspend
  | extend {engine next : Engine} {statements : List Statement}
      (hextend : engine.extend statements = .ok next) : Handles engine next
  | persist (engine : Engine) (store : SessionStore) (tree : FileTree) :
      Handles engine (engine.persist store tree).2.1
  | restore {engine : Engine} {record : SessionRecord} (hstate : record.state = engine.state) :
      Handles engine (.restore record)

/-- What becomes of an engine by steps and by what its holder does in between, with the completions
that were read on the way. -/
inductive Spends (start : Engine) : List Completion → Engine → Prop
  | start : Spends start [] start
  | steps {engine final : Engine} {performed : List (ExecutionState × Statement)}
      {taken further : List Completion} (hspends : Spends start taken engine)
      (hpasses : Passes engine performed further final) : Spends start (taken ++ further) final
  | handle {engine next : Engine} {taken : List Completion} (hspends : Spends start taken engine)
      (hhandles : Handles engine next) : Spends start taken next

variable {start engine next final : Engine} {taken : List Completion}

/-- A session that goes on from its stored text is one that was handled. -/
theorem handles_of_parse (hengine : Reachable .wellFormed engine)
    (hlength : engine.state.statements.length < 0x10000000000000000) {now : Timestamp}
    (hnow : now.Writable) (hfloats : (engine.snapshot now).toJson.EachNumber Json.FloatReadsBack)
    {record : SessionRecord}
    (hrecord : SessionRecord.parse (engine.snapshot now).render = .ok record) :
    Handles engine (restore record) :=
  .restore (congrArg Engine.state (restore_of_parse hengine hlength hnow hfloats hrecord))

theorem Handles.counters (hhandles : Handles engine next) :
    next.state.counters = engine.state.counters := by
  cases hhandles with
  | withFilename filename => rfl
  | setVariable hset =>
      simp only [Engine.setVariable, Attempt.bind_eq_ok_iff, Attempt.pure_eq_ok_iff] at hset
      obtain ⟨state, hassign, rfl⟩ := hset
      obtain ⟨bindings, rfl⟩ := ExecutionState.assign_eq hassign
      rfl
  | suspend =>
      rw [Engine.suspend]
      split <;> rfl
  | extend hextend =>
      rw [Engine.extend] at hextend
      split at hextend
      next => exact nomatch hextend
      next =>
        cases hextend
        rfl
  | persist store tree =>
      rw [Engine.persist]
      split <;> rfl
  | restore hstate => exact congrArg ExecutionState.counters hstate

/-- The counters of a session go up by what was read, and by nothing else. -/
theorem Spends.counters (hspends : Spends start taken final) :
    final.state.counters = start.state.counters.recordAll taken := by
  induction hspends with
  | start => rfl
  | steps hspends hpasses ih => rw [hpasses.goesOn.counters, ih, Counters.recordAll_append]
  | handle hspends hhandles ih => rw [hhandles.counters, ih]

theorem Spends.run (hspends : Spends start taken final) (settings : Settings) (world : World) :
    ∃ further, Spends start (taken ++ further) (final.run settings world).2.1 := by
  obtain ⟨performed, further, hpasses⟩ := passes_runFor settings _ final world
  exact ⟨further, hspends.steps hpasses⟩

/-! ## Exchanges -/

/-- A step that performs an exchange reads the usages that the replies report which it takes. -/
theorem passes_exchange {settings : Settings} {world : World} {statement : Statement}
    {model : Model} {backend : Backend} {replies : List (Except RunError Json)}
    (hnext : engine.next? = some statement) (hkind : statement.kind = .exec)
    (hmodel : Exchange.resolveModel settings engine.state = .ok model)
    (hbackend : Backend.ofProvider model.provider = .ok backend)
    (hreplies : world.replies = replies ++ (engine.step settings world).2.2.replies) :
    ∃ further, Passes engine [(engine.state, statement)] further
        (engine.step settings world).2.1 ∧
      further.map Completion.usage = replies.filterMap backend.reported? := by
  have htakes := Statement.Takes.replies hkind hmodel hbackend hreplies
  refine ⟨_, .perform settings world hnext htakes (.done _), ?_⟩
  rw [List.append_nil, Exchange.usage_completions]

/-- Whether the next statement of an engine is an exchange that comes to a request, with what it
needs for that. -/
structure Requests (engine : Engine) (settings : Settings) (world : World)
    (plan : Exchange.Plan) : Prop where
  next : ∃ statement, engine.next? = some statement ∧ statement.kind = .exec
  placed : engine.state.conversation.Placed
  paired : engine.state.conversation.Paired
  planned : ∃ model refreshed, Exchange.resolveModel settings engine.state = .ok model ∧
    world.refreshFunctions settings = (.ok (), refreshed) ∧
    Exchange.plan settings engine.state refreshed.registry model = .ok plan

theorem step_world_of_exec {statement : Statement} (settings : Settings) (world : World)
    (hnext : engine.next? = some statement) (hkind : statement.kind = .exec) :
    (engine.step settings world).2.2 = (Exchange.run settings engine.state world).2.2 := by
  obtain ⟨hstatus, hcurrent⟩ := next?_eq_some_iff.mp hnext
  have hrun : statement.perform settings engine.state world =
      Exchange.run settings engine.state world := by
    simp only [Statement.perform, hkind]
  rw [← hrun]
  rcases hperform : statement.perform settings engine.state world with ⟨error | _, next, later⟩
  · rw [step_of_error settings hstatus hcurrent hperform]
  · rw [step_of_ok settings hstatus hcurrent hperform]

/-- Whatever the next reply reports is counted. -/
theorem Requests.counts {settings : Settings} {world : World} {plan : Exchange.Plan}
    (hrequests : engine.Requests settings world plan) {usage : TokenUsage}
    {rest : List (Except RunError Json)}
    (hreplies : world.replies = .ok (plan.backend.report usage) :: rest) :
    ∃ performed further, Passes engine performed further (engine.step settings world).2.1 ∧
      further.map Completion.usage = [usage] := by
  obtain ⟨statement, hnext, hkind⟩ := hrequests.next
  obtain ⟨model, refreshed, hmodel, hrefresh, hplan⟩ := hrequests.planned
  obtain ⟨rfl, hbackend⟩ := Exchange.plan_eq_ok hplan
  have hrest := Exchange.replies_of_report hrequests.placed hrequests.paired hmodel hrefresh hplan
    hreplies
  rw [← step_world_of_exec settings world hnext hkind] at hrest
  have htaken : world.replies =
      [.ok (plan.backend.report usage)] ++ (engine.step settings world).2.2.replies := by
    rw [hreplies, hrest]
    rfl
  obtain ⟨further, hpasses, husage⟩ := passes_exchange hnext hkind hmodel hbackend htaken
  refine ⟨_, further, hpasses, ?_⟩
  rw [husage, List.filterMap_cons, Backend.reported?_report]
  rfl

end Engine

end PromptScript
