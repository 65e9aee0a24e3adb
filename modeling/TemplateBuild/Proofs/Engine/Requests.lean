import TemplateBuild.Engine.Provision
import TemplateBuild.Proofs.World

/-!
# What is sent

An effect adds to what has passed over the network, and takes nothing back.  To ask for a URL is
at most two requests, since a redirect is followed once, and an answer is a reply to one of them.
-/

set_option autoImplicit false

namespace TemplateBuild

/-- A network over which more has passed. -/
def Network.after (network : Network) (sent : List (Request × Exchange)) : Network :=
  { network with past := network.past ++ sent }

@[simp]
theorem Network.after_nil (network : Network) : network.after [] = network := by
  simp [after]

@[simp]
theorem Network.after_after (network : Network) (sent more : List (Request × Exchange)) :
    (network.after sent).after more = network.after (sent ++ more) := by
  simp [after]

namespace Effect

variable {ε α β : Type}

/-- An effect does so in a world: this is said of its result, of what it sends, and of the files
that it leaves. -/
def Does (effect : Effect ε α) (world : World)
    (post : Except ε α → List (Request × Exchange) → FileTree → Prop) : Prop :=
  ∃ sent, (run effect world).2.network = world.network.after sent ∧
    post (run effect world).1 sent (run effect world).2.files

section Rules

variable {world : World} {post between : Except ε α → List (Request × Exchange) → FileTree → Prop}

theorem does_pure {value : α} (holds : post (.ok value) [] world.files) :
    (pure value : Effect ε α).Does world post :=
  ⟨[], (Network.after_nil _).symm, holds⟩

theorem does_throw {error : ε} (holds : post (.error error) [] world.files) :
    (throw error : Effect ε α).Does world post :=
  ⟨[], (Network.after_nil _).symm, holds⟩

theorem does_exchange {request : Request}
    {post : Except ε Exchange → List (Request × Exchange) → FileTree → Prop}
    (holds : ∀ answer, post (.ok answer) [(request, answer)] world.files) :
    (exchange request : Effect ε Exchange).Does world post :=
  ⟨_, rfl, holds _⟩

theorem does_change {onFailure : FileFailure → ε}
    {operation : FileTree → Except FileFailure Unit × FileTree}
    {post : Except ε Unit → List (Request × Exchange) → FileTree → Prop}
    (holds : post ((operation world.files).1.mapError onFailure) [] (operation world.files).2) :
    (change onFailure operation).Does world post := by
  refine ⟨[], ?_, ?_⟩
  · rw [run_change, Network.after_nil]
  · rwa [run_change]

theorem Does.mono {effect : Effect ε α} (does : effect.Does world between)
    (enough : ∀ result sent files, between result sent files → post result sent files) :
    effect.Does world post := by
  obtain ⟨sent, network, holds⟩ := does
  exact ⟨sent, network, enough _ _ _ holds⟩

theorem does_of_run {effect other : Effect ε α} (same : run effect world = run other world)
    (does : other.Does world post) : effect.Does world post := by
  rwa [Does, same]

theorem does_files {next : FileTree → Effect ε α} (does : (next world.files).Does world post) :
    (files >>= next).Does world post := by
  rwa [Does, run_bind_of_ok next (run_files world)]

/-- What is done in turn is sent in turn; after an error nothing more is. -/
theorem Does.bind {effect : Effect ε α} {next : α → Effect ε β}
    {post : Except ε β → List (Request × Exchange) → FileTree → Prop}
    (first : effect.Does world between)
    (failed : ∀ error sent files, between (.error error) sent files →
      post (.error error) sent files)
    (second : ∀ value sent later, between (.ok value) sent later.files →
      (next value).Does later fun result more files => post result (sent ++ more) files) :
    (effect >>= next).Does world post := by
  obtain ⟨sent, network, holds⟩ := first
  rw [Does, run_bind]
  cases ran : run effect world with
  | mk result later =>
      rw [ran] at network holds
      cases result with
      | error error => exact ⟨sent, network, failed error sent later.files holds⟩
      | ok value =>
          obtain ⟨more, further, last⟩ := second value sent later holds
          refine ⟨sent ++ more, ?_, last⟩
          rw [further, network, Network.after_after]

end Rules

end Effect

namespace Fetch

open Effect

/-- The files are as before, few requests were sent, and an answer came for one of them. -/
structure Asks (before : FileTree) (most : Nat) (result : Except ProvisionError (Url × Reply))
    (sent : List (Request × Exchange)) (after : FileTree) : Prop where
  files : after = before
  few : sent.length ≤ most
  replied : ∀ answer, result = .ok answer → ∃ request, (request, .replied answer.2) ∈ sent

theorem send_asks (text : String) (world : World) :
    (send text).Does world (Asks world.files 1) := by
  rw [send]
  split
  · exact does_throw ⟨rfl, by simp, by simp⟩
  · next url _ =>
    have asked : (exchange ⟨url, agent⟩ : Effect ProvisionError Exchange).Does world
        fun result sent files => files = world.files ∧
          ∃ answer, result = .ok answer ∧ sent = [(⟨url, agent⟩, answer)] :=
      does_exchange fun answer => ⟨rfl, answer, rfl, rfl⟩
    apply asked.bind
    · rintro error sent files ⟨_, answer, same, _⟩
      cases same
    · rintro value sent later ⟨kept, answer, same, rfl⟩
      cases same
      cases value with
      | unreachable causes => exact does_throw ⟨kept, by simp, by simp⟩
      | replied reply =>
          refine does_pure ⟨kept, by simp, ?_⟩
          intro answer same
          cases same
          exact ⟨⟨url, agent⟩, by simp⟩

/-- A reply that is not a success is no answer. -/
theorem checkStatus_does (text : String) (answer : Url × Reply) (world : World) :
    (checkStatus text answer).Does world fun result sent files => files = world.files ∧ sent = [] ∧
      ∀ value, result = .ok value → value = answer ∧ answer.2.succeeded = true := by
  rw [checkStatus]
  split
  · next success =>
    refine does_pure ⟨rfl, rfl, ?_⟩
    intro value same
    cases same
    exact ⟨rfl, success⟩
  · exact does_throw ⟨rfl, rfl, by simp⟩

/-- What answers is the reply to one of at most two requests, and a success. -/
structure Gets (before : FileTree) (result : Except ProvisionError (Url × Reply))
    (sent : List (Request × Exchange)) (after : FileTree) : Prop extends
    Asks before 2 result sent after where
  succeeded : ∀ answer, result = .ok answer → answer.2.succeeded = true

theorem Asks.checked {before : FileTree} {most : Nat} {text : String} {answer : Url × Reply}
    {sent : List (Request × Exchange)} {world : World}
    (asks : Asks before most (.ok answer) sent world.files) (few : sent.length ≤ 2) :
    (checkStatus text answer).Does world fun result more files =>
      Gets before result (sent ++ more) files := by
  apply (checkStatus_does text answer world).mono
  rintro result more files ⟨kept, rfl, checked⟩
  rw [List.append_nil]
  refine ⟨⟨kept.trans asks.files, few, ?_⟩, ?_⟩
  · intro value same
    rw [(checked value same).1]
    exact asks.replied answer rfl
  · intro value same
    rw [(checked value same).1]
    exact (checked value same).2

theorem get_gets (text : String) (world : World) :
    (get text).Does world (Gets world.files) := by
  rw [get]
  apply (send_asks text world).bind
  · intro error sent files asks
    exact ⟨⟨asks.files, Nat.le_succ_of_le asks.few, by simp⟩, by simp⟩
  · intro first sent middle asks
    have few := asks.few
    split
    · exact asks.checked (by omega)
    · split
      · exact does_throw ⟨⟨asks.files, by simp; omega, by simp⟩, by simp⟩
      · next target _ =>
        apply (send_asks target.text middle).bind
        · intro error more files again
          have fewAgain := again.few
          exact ⟨⟨again.files.trans asks.files, by simp; omega, by simp⟩, by simp⟩
        · intro second more later again
          have fewAgain := again.few
          have whole : Asks world.files 2 (.ok second) (sent ++ more) later.files := by
            refine ⟨again.files.trans asks.files, by simp; omega, ?_⟩
            intro answer same
            obtain ⟨request, member⟩ := again.replied answer same
            exact ⟨request, List.mem_append_right _ member⟩
          split
          · rw [throw_bind]
            exact does_throw ⟨⟨whole.files, by simpa using whole.few, by simp⟩, by simp⟩
          · apply (whole.checked whole.few).mono
            intro result others files gets
            rwa [← List.append_assoc]

theorem lookup_does (listingUrl engine : String) (world : World) :
    (lookup listingUrl engine).Does world fun _ sent files =>
      files = world.files ∧ sent.length ≤ 2 := by
  rw [lookup]
  apply (get_gets listingUrl world).bind
  · exact fun _ _ _ gets => ⟨gets.files, gets.few⟩
  · rintro ⟨_, reply⟩ sent later gets
    have whole : later.files = world.files ∧ (sent ++ []).length ≤ 2 :=
      ⟨gets.files, by simpa using gets.few⟩
    simp only
    split
    · exact does_throw whole
    · split
      · exact does_pure whole
      · exact does_throw whole

end Fetch

/-- So many requests are sent at most for an engine: a redirect doubles each. -/
def Remote.mostRequests : Remote → Nat
  | .template _ => 2
  | .listing _ => 4

/-- The download itself takes two of them. -/
theorem Provisioning.downloadUrl_does (provisioning : Provisioning) (engine : String)
    (world : World) : (provisioning.downloadUrl engine).Does world fun _ sent files =>
      files = world.files ∧ sent.length + 2 ≤ provisioning.remote.mostRequests := by
  rw [downloadUrl]
  split
  · next url remote =>
    rw [remote]
    apply (Fetch.lookup_does url engine world).mono
    rintro result sent files ⟨kept, few⟩
    exact ⟨kept, Nat.add_le_add_right few 2⟩
  · next url remote =>
    rw [remote]
    exact Effect.does_pure ⟨rfl, Nat.le_refl _⟩

end TemplateBuild
