import ShoppingApp.Library.Record
import ShoppingApp.Library.Transition
import Mathlib.Data.List.Basic

/-! A server record takes patches in the order of their calls, and a cached copy is replaced by the
snapshot that each call took when it was issued. -/

namespace Replica

variable {Key Value : Type*}

/-- A call carries its patch and the copy of the cache that it patched. -/
structure Call (Key Value : Type*) where
  values : Record Key Value
  snapshot : Record Key Value

/-- The calls in flight are first waiting for the server and then answered. -/
structure State (Key Value : Type*) where
  server : Record Key Value
  cache : Record Key Value
  answered : List (Call Key Value × Bool)
  waiting : List (Call Key Value)

/-- A client that has stopped does not save the snapshot of an acknowledged call. -/
inductive Action (Key Value : Type*) where
  | issue (values : Record Key Value)
  | answer (succeeded : Bool)
  | acknowledge (running : Bool)

def step (state : State Key Value) : Action Key Value → Option (State Key Value)
  | .issue values =>
      some { state with waiting := state.waiting ++ [⟨values, state.cache.patch values⟩] }
  | .answer succeeded =>
      match state.waiting with
      | [] => none
      | call :: rest =>
          some { state with
            server := if succeeded then state.server.patch call.values else state.server
            answered := state.answered ++ [(call, succeeded)]
            waiting := rest }
  | .acknowledge running =>
      match state.answered with
      | [] => none
      | (call, succeeded) :: rest =>
          some { state with
            cache := if running && succeeded then call.snapshot else state.cache
            answered := rest }

/-- A live call is in flight and has not failed. -/
def State.live (state : State Key Value) : List (Call Key Value) :=
  (state.answered.filter Prod.snd).map Prod.fst ++ state.waiting

/-- The later patch names each field of the earlier one, or the earlier one does not change the field. -/
def Supersedes (cache earlier later : Record Key Value) : Prop :=
  ∀ key, earlier key = none ∨ later key ≠ none ∨ earlier key = cache key

/-- A new patch supersedes the patches of the live calls. -/
def Orderly (state : State Key Value) : Action Key Value → Prop
  | .issue values => ∀ call ∈ state.live, Supersedes state.cache call.values values
  | .acknowledge running => running = true
  | .answer _ => True

/-- The cache agrees with the server up to the answered calls, and every snapshot is up to date. -/
structure Synced (state : State Key Value) : Prop where
  server : state.server =
    ((state.answered.filter Prod.snd).map fun answer => answer.1.values).foldl Record.patch state.cache
  snapshot : ∀ call ∈ state.live, call.snapshot = state.cache.patch call.values
  ordered : state.live.Pairwise fun earlier later =>
    Supersedes state.cache earlier.values later.values

theorem Supersedes.patch_patch {cache earlier later : Record Key Value}
    (supersedes : Supersedes cache earlier later) :
    (cache.patch earlier).patch later = cache.patch later := by
  funext key
  cases named : later key with
  | some value => simp [Record.patch, named]
  | none =>
      rcases supersedes key with absent | present | same
      · simp [Record.patch, named, absent]
      · exact absurd named present
      · simp [Record.patch, named, same]

/-- The head of the live calls can be saved without harm to the order of the others. -/
theorem Supersedes.of_patch {cache head earlier later : Record Key Value}
    (first : Supersedes cache head later) (second : Supersedes cache earlier later) :
    Supersedes (cache.patch head) earlier later := by
  intro key
  rcases second key with absent | present | same
  · exact .inl absent
  · exact .inr (.inl present)
  · rcases first key with absent | present | sameHead
    · exact .inr (.inr (by simp [Record.patch, absent, same]))
    · exact .inr (.inl present)
    · exact .inr (.inr (by simp [Record.patch, sameHead, same]))

theorem Synced.issue {state : State Key Value} {values : Record Key Value} (synced : Synced state)
    (orderly : Orderly state (.issue values)) :
    Synced { state with waiting := state.waiting ++ [⟨values, state.cache.patch values⟩] } := by
  have live : State.live { state with waiting := state.waiting ++ [⟨values, state.cache.patch values⟩] } =
      state.live ++ [⟨values, state.cache.patch values⟩] := by
    simp [State.live, List.append_assoc]
  refine ⟨synced.server, ?_, ?_⟩
  · rw [live]
    intro call member
    rcases List.mem_append.mp member with old | new
    · exact synced.snapshot call old
    · obtain rfl := List.mem_singleton.mp new
      rfl
  · rw [live, List.pairwise_append]
    refine ⟨synced.ordered, List.pairwise_singleton _ _, fun call member other new => ?_⟩
    obtain rfl := List.mem_singleton.mp new
    exact orderly call member

theorem Synced.answer {state : State Key Value} {call : Call Key Value}
    {rest : List (Call Key Value)} {succeeded : Bool} (synced : Synced state)
    (head : state.waiting = call :: rest) :
    Synced { state with
      server := if succeeded then state.server.patch call.values else state.server
      answered := state.answered ++ [(call, succeeded)]
      waiting := rest } := by
  cases succeeded with
  | true =>
      have live : State.live { state with
          server := state.server.patch call.values
          answered := state.answered ++ [(call, true)]
          waiting := rest } = state.live := by
        simp [State.live, head]
      refine ⟨?_, fun call member => synced.snapshot call (live ▸ member), live ▸ synced.ordered⟩
      simp [synced.server, List.foldl_append]
  | false =>
      have live : (State.live { state with
          answered := state.answered ++ [(call, false)]
          waiting := rest }).Sublist state.live := by
        simp [State.live, head]
      refine ⟨?_, fun call member => synced.snapshot call (live.subset member),
        synced.ordered.sublist live⟩
      simpa using synced.server

theorem Synced.acknowledge {state : State Key Value} {call : Call Key Value} {succeeded : Bool}
    {rest : List (Call Key Value × Bool)} (synced : Synced state)
    (head : state.answered = (call, succeeded) :: rest) :
    Synced { state with
      cache := if succeeded then call.snapshot else state.cache
      answered := rest } := by
  cases succeeded with
  | false =>
      have live : State.live { state with answered := rest } = state.live := by
        simp [State.live, head]
      refine ⟨?_, fun call member => synced.snapshot call (live ▸ member), live ▸ synced.ordered⟩
      simpa [head] using synced.server
  | true =>
      have live : state.live = call :: State.live { state with answered := rest } := by
        simp [State.live, head]
      have saved : call.snapshot = state.cache.patch call.values :=
        synced.snapshot call (live ▸ List.mem_cons_self)
      have ordered := live ▸ synced.ordered
      obtain ⟨later, ordered⟩ := List.pairwise_cons.mp ordered
      refine ⟨?_, fun other member => ?_, ?_⟩
      · simpa [head, saved] using synced.server
      · have member' : other ∈ State.live { state with answered := rest } := member
        have old := synced.snapshot other (live ▸ List.mem_cons_of_mem _ member')
        rw [old]
        simp only [if_true, saved, (later other member').patch_patch]
      · simp only [if_true, saved]
        refine ordered.imp_of_mem fun earlierMember laterMember supersedes => ?_
        exact (later _ laterMember).of_patch supersedes

/-- Every orderly step keeps the cache and the server in agreement. -/
theorem Synced.step {state next : State Key Value} {action : Action Key Value} (synced : Synced state)
    (orderly : Orderly state action) (taken : Replica.step state action = some next) :
    Synced next := by
  cases action with
  | issue values =>
      obtain rfl := Option.some.inj taken
      exact synced.issue orderly
  | answer succeeded =>
      simp only [Replica.step] at taken
      split at taken
      · cases taken
      · rename_i call rest head
        obtain rfl := Option.some.inj taken
        exact synced.answer head
  | acknowledge running =>
      simp only [Replica.step] at taken
      split at taken
      · cases taken
      · rename_i call succeeded rest head
        obtain rfl := Option.some.inj taken
        obtain rfl : running = true := orderly
        simpa using synced.acknowledge head

/-- The cache equals the server when no call is in flight. -/
theorem Synced.agree {state : State Key Value} (synced : Synced state)
    (answered : state.answered = []) : state.cache = state.server := by
  rw [synced.server, answered]
  rfl

/-- The server record will be this one when every waiting call has been applied. -/
def State.upcoming (state : State Key Value) : Record Key Value :=
  (state.waiting.map Call.values).foldl Record.patch state.server

/-- An applied call and an acknowledgement keep the upcoming record, and a new call patches it. -/
theorem State.upcoming_step {state next : State Key Value} {action : Action Key Value}
    (taken : Replica.step state action = some next) (applied : action ≠ .answer false) :
    next.upcoming =
      match action with
      | .issue values => state.upcoming.patch values
      | .answer _ | .acknowledge _ => state.upcoming := by
  cases action with
  | issue values =>
      obtain rfl := Option.some.inj taken
      simp [upcoming, List.foldl_append]
  | answer succeeded =>
      have sent : succeeded = true := by
        cases succeeded with
        | true => rfl
        | false => exact absurd rfl applied
      simp only [Replica.step] at taken
      split at taken
      · cases taken
      · rename_i call rest head
        obtain rfl := Option.some.inj taken
        simp [upcoming, head, sent]
  | acknowledge running =>
      simp only [Replica.step] at taken
      split at taken
      · cases taken
      · obtain rfl := Option.some.inj taken
        rfl

end Replica
