import ShoppingApp.Library.Transition
import ShoppingApp.Model.Firestore

namespace ShoppingApp

/-- These are the variables of `SearchViewController`, the loading indicator, and the variables that each search
shares with the callbacks of its downloads. -/
structure SearchScreen where
  searchResults : List Item := []
  indicator : Bool := false
  submitted : Nat := 0
  downloads : Nat → Option ItemDownload := fun _ => none
  trapped : Bool := false

/-- A search asks Algolia for identifiers, and then it reads the document of each of them. -/
inductive SearchRequest where
  | searchAlgolia (searchString : String)
  | getItem (name : String)
  deriving DecidableEq

/-- Algolia fails or lists the object identifiers of its hits, and Firestore answers a document read. -/
inductive SearchReply where
  | failed
  | hits (objectIds : List (Option String))
  | document (read : DocumentRead)

/-- A request in flight belongs to the search that issued it. -/
structure SearchFlight where
  search : Nat
  request : SearchRequest
  reply : Option SearchReply

namespace SearchScreen

/-- This is the completion of `downloadItemsFromFirebase(withIds:)` in `searchInFirebase`. -/
def showResults (searchedItems : List Item) (screen : SearchScreen) : SearchScreen :=
  { screen with searchResults := searchedItems, indicator := false }

/-- The completion runs once for each delivered array. -/
def deliver (delivered : List (List Item)) (screen : SearchScreen) : SearchScreen :=
  delivered.foldl (fun screen items => screen.showResults items) screen

/-- The search starts only when the text field has text. -/
def searchButtonPressed (text : String) (screen : SearchScreen) : SearchScreen × List SearchFlight :=
  if text ≠ "" then
    ({ screen with indicator := true, submitted := screen.submitted + 1 },
      [⟨screen.submitted, .searchAlgolia text, none⟩])
  else (screen, [])

/-- One read is issued for each identifier, and an empty list is delivered at once. -/
def downloadItemsFromFirebase (search : Nat) (withIds : List String) (screen : SearchScreen) :
    SearchScreen × List SearchFlight :=
  if 0 < withIds.length then
    ({ screen with downloads := Function.update screen.downloads search (some { withIds := withIds }) },
      withIds.map fun itemId => ⟨search, .getItem itemId, none⟩)
  else (screen.showResults [], [])

/-- This is the callback of `index.search`: the identifiers of the hits are cast by force. -/
def searchCompletion (search : Nat) (reply : SearchReply) (screen : SearchScreen) :
    SearchScreen × List SearchFlight :=
  match reply with
  | .hits objectIds =>
      match objectIds.mapM id with
      | none => ({ screen with trapped := true }, [])
      | some resultIds => screen.downloadItemsFromFirebase search resultIds
  | _ => screen.downloadItemsFromFirebase search []

/-- This is the callback of one item read. -/
def itemCompletion (search : Nat) (read : DocumentRead) (screen : SearchScreen) : SearchScreen :=
  match screen.downloads search with
  | none => screen
  | some shared =>
      { screen with downloads := Function.update screen.downloads search (some (shared.receive read).1) }.deliver
        (shared.receive read).2

end SearchScreen

/-- The search screen stands before the item documents, Algolia, and the requests in flight. -/
structure SearchWorld where
  store : Store
  screen : SearchScreen
  flights : List SearchFlight

/-- A request fails, Algolia lists its hits, or Firestore reads the document. -/
inductive SearchAnswer where
  | failure
  | hits (objectIds : List (Option String))
  | success

/-- The user submits a search, a request is answered, or a callback runs. -/
inductive SearchEvent where
  | searchButtonPressed (text : String)
  | serve (index : Nat) (answer : SearchAnswer)
  | callback (index : Nat)

/-- The document read finds the document or misses it. -/
def Store.readItem (store : Store) (name : String) : DocumentRead :=
  match store.data .items name with
  | none => .missing
  | some data => .found data

def SearchAnswer.reply (store : Store) : SearchAnswer → SearchRequest → Option SearchReply
  | .failure, .searchAlgolia _ => some .failed
  | .failure, .getItem _ => some (.document .failed)
  | .hits objectIds, .searchAlgolia _ => some (.hits objectIds)
  | .success, .getItem name => some (.document (store.readItem name))
  | .hits _, .getItem _ | .success, .searchAlgolia _ => none

namespace SearchWorld

/-- The outcome of a handler updates the screen and adds its requests to the flights. -/
def perform (world : SearchWorld) (outcome : SearchScreen × List SearchFlight) : SearchWorld :=
  { world with screen := outcome.1, flights := world.flights ++ outcome.2 }

/-- The completion of each request runs on the screen. -/
def complete (screen : SearchScreen) (search : Nat) : SearchRequest → SearchReply → SearchScreen × List SearchFlight
  | .searchAlgolia _, reply => screen.searchCompletion search reply
  | .getItem _, .document read => (screen.itemCompletion search read, [])
  | .getItem _, _ => (screen, [])

/-- A stopped application takes no search and runs no callback. -/
def step (world : SearchWorld) : SearchEvent → Option SearchWorld
  | .searchButtonPressed text =>
      if world.screen.trapped then none else some (world.perform (world.screen.searchButtonPressed text))
  | .serve index answer =>
      match world.flights[index]? with
      | some ⟨search, request, none⟩ =>
          (answer.reply world.store request).map fun reply =>
            { world with flights := world.flights.set index ⟨search, request, some reply⟩ }
      | _ => none
  | .callback index =>
      match world.flights[index]? with
      | some ⟨search, request, some reply⟩ =>
          if world.screen.trapped then some { world with flights := world.flights.eraseIdx index }
          else some ({ world with flights := world.flights.eraseIdx index }.perform
            (complete world.screen search request reply))
      | _ => none

abbrev run (world : SearchWorld) (events : List SearchEvent) : Option SearchWorld :=
  Transition.run step world events

variable {world next : SearchWorld}

theorem step_searchButtonPressed {text : String} :
    world.step (.searchButtonPressed text) = some next ↔
      world.screen.trapped = false ∧ next = world.perform (world.screen.searchButtonPressed text) := by
  simp only [step]
  cases world.screen.trapped <;> simp [eq_comm]

theorem step_serve {index : Nat} {answer : SearchAnswer} :
    world.step (.serve index answer) = some next ↔
      ∃ search request reply, world.flights[index]? = some ⟨search, request, none⟩ ∧
        answer.reply world.store request = some reply ∧
        next = { world with flights := world.flights.set index ⟨search, request, some reply⟩ } := by
  simp only [step]
  split
  · rename_i search request found
    simp [found, eq_comm]
  · rename_i absent
    constructor
    · intro impossible
      cases impossible
    · rintro ⟨search, request, _, found, _⟩
      exact absurd found (absent search request)

theorem step_callback {index : Nat} :
    world.step (.callback index) = some next ↔
      ∃ search request reply, world.flights[index]? = some ⟨search, request, some reply⟩ ∧
        next = if world.screen.trapped then { world with flights := world.flights.eraseIdx index }
          else { world with flights := world.flights.eraseIdx index }.perform
            (complete world.screen search request reply) := by
  simp only [step]
  split
  · rename_i search request reply found
    cases world.screen.trapped <;> simp [found, eq_comm]
  · rename_i absent
    constructor
    · intro impossible
      cases impossible
    · rintro ⟨search, request, reply, found, _⟩
      exact absurd found (absent search request reply)

end SearchWorld

end ShoppingApp
