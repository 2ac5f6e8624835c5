import ShoppingApp.Library.Ranks
import ShoppingApp.Proof.AppStops
import ShoppingApp.Proof.SearchIndicator

namespace ShoppingApp

/-- A callback issues requests of lower levels alone. -/
def Request.level : Request → Nat
  | .signIn _ | .getBaskets _ _ => 2
  | .getUser _ _ | .updateBasket _ _ _ => 1
  | .setBasket _ _ | .getItem _ _ | .setUser _ _ | .updateUser _ _ _ | .createUser _ => 0

/-- A stored file is asked for its link, and the last link publishes the item. -/
def PublishRequest.level : PublishRequest → Nat
  | .putData _ _ _ => 2
  | .downloadURL _ _ => 1
  | .setItem _ _ _ | .addObject _ _ _ | .setCategory _ _ => 0

/-- A search reads the documents of its hits. -/
def SearchRequest.level : SearchRequest → Nat
  | .searchAlgolia _ => 1
  | .getItem _ => 0

/-- A request of a level stands above its answer, and its answer stands above the requests of the lower levels. -/
def rank {Reply : Type} (level : Nat) (reply : Option Reply) : Nat := 2 * level + reply.isNone.toNat

def Flight.rank (flight : Flight) : Nat := ShoppingApp.rank flight.request.level flight.reply

def PublishFlight.rank (flight : PublishFlight) : Nat := ShoppingApp.rank flight.request.level flight.reply

def SearchFlight.rank (flight : SearchFlight) : Nat := ShoppingApp.rank flight.request.level flight.reply

def BrowseFlight.rank (flight : BrowseFlight) : Nat := ShoppingApp.rank 0 flight.reply

/-- The server answers a request, or a callback runs. -/
def MarketEvent.background : MarketEvent → Bool
  | .shop event => !event.isGesture
  | .serve _ _ | .callback _ _ => true
  | _ => false

def SearchEvent.background : SearchEvent → Bool
  | .searchButtonPressed _ => false
  | .serve _ _ | .callback _ => true

def AppEvent.background : AppEvent → Bool
  | .market event => event.background
  | .search _ event => event.background
  | .serve _ _ | .callback _ => true
  | _ => false

section Ranks

variable {Reply : Type}

theorem rank_answer (level : Nat) (reply : Reply) : rank level (some reply) < rank level (none : Option Reply) := by
  simp [rank]

theorem rank_issue {issued level : Nat} (lower : issued < level) (reply : Reply) :
    rank issued (none : Option Reply) < rank level (some reply) := by
  simp only [rank, Option.isNone_none, Option.isNone_some, Bool.toNat_true, Bool.toNat_false]
  omega

end Ranks

/-- The completion of a request issues requests of lower levels. -/
theorem Request.Follows.level {uuid : String} {device : Device} {request issued : Request} {reply : Reply}
    (follows : Follows uuid device request reply issued) : issued.level < request.level := by
  cases follows <;> simp [Request.level]

/-- The background of the shop comes down. -/
theorem World.step_ranks {world next : World} {event : Event} (background : event.isGesture = false)
    (taken : world.step event = some next) :
    (Pool.ranks Flight.rank next.flights).IsDershowitzMannaLT (Pool.ranks Flight.rank world.flights) := by
  cases event with
  | gesture number made => cases background
  | serve index answer =>
      obtain ⟨number, request, found, served⟩ := step_serve.mp taken
      rcases serve_cases served with ⟨_, rfl⟩ | ⟨_, _, rfl⟩ | ⟨uid, isEmailVerified, _, _, rfl⟩
      · exact Pool.ranks_set found (rank_answer _ _)
      · exact Pool.ranks_set found (rank_answer _ _)
      · exact Pool.ranks_set found (rank_answer _ _)
  | callback index uuid =>
      obtain ⟨number, request, reply, found, _, rfl⟩ := step_callback.mp taken
      cases trapped : (world.devices number).trapped with
      | true =>
          rw [callback_of_stopped trapped]
          exact Pool.ranks_remove found
      | false =>
          rw [callback_of_running trapped]
          refine Pool.ranks_replace found fun flight member => ?_
          obtain ⟨issued, inside, rfl⟩ := List.mem_map.mp member
          exact rank_issue (Request.follows_of_mem inside).level _

namespace Market

variable {market next : Market} {double : String → Option Double} {link : StoragePath → String}

/-- The completion of a request adds requests of lower levels. -/
theorem complete_flights (uuid : String) (market : Market) (request : PublishRequest) (reply : PublishReply) :
    ∃ issued : List PublishRequest, (market.complete uuid request reply).flights =
        market.flights ++ issued.map (fun issued => ⟨issued, none⟩) ∧
      ∀ other ∈ issued, other.level < request.level := by
  have nothing : ∃ issued : List PublishRequest,
      market.flights = market.flights ++ issued.map (fun issued => ⟨issued, none⟩) ∧
        ∀ other ∈ issued, other.level < request.level :=
    ⟨[], (List.append_nil _).symm, fun other member => absurd member List.not_mem_nil⟩
  rcases complete_cases uuid market request reply with
    ⟨number, fileName, imageLink, _, _, linked, same⟩ | ⟨_, ⟨number, fileName, imageData, rfl, _, same⟩ | same⟩
  · rw [same]
    rcases imageSaved_cases uuid number imageLink market with same | ⟨publication, screen, _, _, same⟩
    · rw [same]
      exact nothing
    · rw [same]
      cases imageLink with
      | none => exact ⟨[], rfl, fun other member => absurd member List.not_mem_nil⟩
      | some absoluteString =>
          obtain ⟨rfl, _⟩ := linked absoluteString rfl
          refine ⟨_, rfl, fun other member => ?_⟩
          unfold Publication.imageSaved at member
          dsimp only at member
          split at member
          · rw [Publication.finish_eq] at member
            rcases List.mem_pair.mp member with rfl | rfl <;> exact Nat.one_pos
          · cases member
  · rw [same]
    refine ⟨[.downloadURL number fileName], rfl, fun other member => ?_⟩
    rw [List.mem_singleton.mp member]
    exact Nat.lt_succ_self 1
  · rw [same]
    exact nothing

/-- The background of the market comes down beside the shop. -/
theorem step_ranks {event : MarketEvent} (background : event.background = true) (other : ∀ made, event ≠ .shop made)
    (taken : market.step double link event = some next) :
    (Pool.ranks PublishFlight.rank next.flights).IsDershowitzMannaLT
      (Pool.ranks PublishFlight.rank market.flights) := by
  cases event with
  | shop made => exact absurd rfl (other made)
  | serve index succeeds =>
      obtain ⟨request, found, ⟨_, rfl⟩ | ⟨_, rfl⟩⟩ := step_serve taken
      · rw [(apply_keeps link market request).2.1]
        exact Pool.ranks_set found (rank_answer _ _)
      · exact Pool.ranks_set found (rank_answer _ _)
  | callback index uuid =>
      obtain ⟨request, reply, found, _, ⟨_, rfl⟩ | ⟨_, rfl⟩⟩ := step_callback taken
      · exact Pool.ranks_remove found
      · obtain ⟨issued, flights, lower⟩ := complete_flights uuid
          { market with flights := market.flights.eraseIdx index, used := uuid :: market.used } request reply
        rw [flights]
        refine Pool.ranks_replace found fun flight member => ?_
        obtain ⟨other, inside, rfl⟩ := List.mem_map.mp member
        exact rank_issue (lower other inside) _
  | _ => cases background

end Market

/-- The background of a search tab comes down. -/
theorem SearchWorld.step_ranks {world next : SearchWorld} {event : SearchEvent} (background : event.background = true)
    (taken : world.step event = some next) :
    (Pool.ranks SearchFlight.rank next.flights).IsDershowitzMannaLT (Pool.ranks SearchFlight.rank world.flights) := by
  cases event with
  | searchButtonPressed text => cases background
  | serve index answer =>
      obtain ⟨search, request, reply, found, _, rfl⟩ := step_serve.mp taken
      exact Pool.ranks_set found (rank_answer _ _)
  | callback index =>
      obtain ⟨search, request, reply, found, rfl⟩ := step_callback.mp taken
      split
      · exact Pool.ranks_remove found
      · refine Pool.ranks_replace found fun flight member => ?_
        cases request with
        | searchAlgolia searchString =>
            rcases SearchScreen.searchCompletion_cases search reply world.screen with loads | ⟨_, stopped⟩
            · obtain ⟨itemId, rfl⟩ := loads.reads.2 flight member
              exact rank_issue Nat.one_pos _
            · unfold complete at member
              dsimp only at member
              rw [stopped] at member
              cases member
        | getItem name => cases reply <;> cases member

end ShoppingApp
