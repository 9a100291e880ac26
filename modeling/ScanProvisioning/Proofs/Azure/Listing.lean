import ScanProvisioning.Proofs.Azure.Requests

namespace ScanProvisioning.Azure

open Program

namespace Management

variable {c : Credential} {operation address : String}

def readPage (c : Credential) (operation address : String) : Action Json := do
  Action.json operation (← c.send operation .management (draft .get address))

/-- What the answer to the request for a page comes to. -/
def pageOf (operation : String) (reply : Except Http.Failure Http.Response) : Except Failure Json :=
  answered operation .management reply >>= readJson operation

/-- A page is read with one request, once there is a token, and is what the answer says. -/
theorem trace_readPage {es : List (Event host)} {page : Except Failure Json}
    (run : Trace (readPage c operation address).run es (some page)) :
    (∀ ev ∈ es, ForToken c ev.call) ∧ (∃ f, page = .error f) ∨
    ∃ early request reply, es = early ++ [⟨.exchange request, reply⟩] ∧ (∀ ev ∈ early, ForToken c ev.call) ∧
      Aims (draft .get address) request ∧ page = pageOf operation reply := by
  simp only [readPage, json_eq_settle] at run
  obtain ⟨response, sent, rfl⟩ := trace_bindPure_iff.mp run
  obtain ⟨quiet, f, rfl⟩ | ⟨early, request, reply, rfl, quiet, aims, rfl⟩ := trace_send sent
  · exact .inl ⟨quiet, f, rfl⟩
  · exact .inr ⟨early, request, reply, rfl, quiet, aims, rfl⟩

/-- One page of a listing: where it was asked for, all that was asked for its sake, and what it came to. -/
structure Reading where
  address : String
  events : List (Event host)
  page : Except Failure Json

/-- Where a page says that the listing goes on. A page that cannot be read says nothing. -/
def Reading.next? (r : Reading) : Option String :=
  match r.page with
  | .ok page => page.string? "nextLink"
  | .error _ => none

/-- Readings of which each is where the one before says, up to one that names no other. -/
def Chain : Option String → List Reading → Prop
  | none, [] => True
  | some address, r :: rest => r.address = address ∧ Chain r.next? rest
  | none, _ :: _ => False
  | some _, [] => False

/-- All that is asked for a listing is asked for its pages, one after the other. -/
structure Walk (c : Credential) (operation address : String) (pages : Nat) (readings : List Reading)
    (es : List (Event host)) : Prop where
  chain : Chain (some address) readings
  short : readings.length ≤ pages
  took : ∀ r ∈ readings, Trace (readPage c operation r.address).run r.events (some r.page)
  events : es = readings.flatMap Reading.events

/-- What stands on a page: the array of its values, and nothing where it has none. -/
def valuesOf (page : Json) : List Json :=
  match page.get? "value" with
  | some (.arr values) => values
  | _ => []

/-- What stands on all pages in the order of the pages, or the failure of a page. -/
def gathered (readings : List Reading) : Except Failure (List Json) :=
  (readings.mapM Reading.page).map (·.flatMap valuesOf)

/-- What follows a page. -/
def listAfter (c : Credential) (operation : String) (pages : Nat) (page : Json) : Action (List Json) :=
  match page.string? "nextLink" with
  | none => ExceptT.mk (pure (.ok (pageItems page)))
  | some next =>
    listFrom c operation pages next >>= fun items => ExceptT.mk (pure (.ok (pageItems page ++ items)))

theorem listFrom_succ (pages : Nat) :
    listFrom c operation (pages + 1) address =
      readPage c operation address >>= listAfter c operation pages := by
  rw [listFrom, readPage, LawfulMonad.bind_assoc]
  rfl

variable {r : Reading} {readings : List Reading} {page : Json} {f : Failure} {pages : Nat}
  {es : List (Event host)} {listed : Except Failure (List Json)}

theorem pageItems_eq (page : Json) : pageItems page = valuesOf page := by
  rw [pageItems, valuesOf]
  rcases page.get? "value" with _ | value
  · rfl
  · cases value <;> rfl

theorem Reading.next?_ok (read : r.page = .ok page) : r.next? = page.string? "nextLink" := by
  rw [next?, read]

private theorem Reading.next?_error (failed : r.page = .error f) : r.next? = none := by
  rw [next?, failed]

private theorem gathered_error (rest : List Reading) (failed : r.page = .error f) :
    gathered (r :: rest) = .error f := by
  rw [gathered, List.mapM_cons, failed]
  rfl

theorem gathered_ok (rest : List Reading) (read : r.page = .ok page) :
    gathered (r :: rest) = (gathered rest).map (valuesOf page ++ ·) := by
  rw [gathered, gathered, List.mapM_cons, read]
  cases rest.mapM Reading.page <;> rfl

private theorem gathered_last (read : r.page = .ok page) : gathered [r] = .ok (valuesOf page) := by
  rw [gathered_ok [] read]
  exact congrArg Except.ok (List.append_nil _)

private theorem trace_last (last : page.string? "nextLink" = none) :
    Trace (listAfter c operation pages page).run es (some listed) ↔
      es = [] ∧ listed = .ok (valuesOf page) := by
  rw [listAfter, last, ← pageItems_eq]
  constructor
  · intro run
    cases run
    exact ⟨rfl, rfl⟩
  · rintro ⟨rfl, rfl⟩
    exact .done _

private theorem trace_linked {next : String} (linked : page.string? "nextLink" = some next) :
    Trace (listAfter c operation pages page).run es (some listed) ↔
      ∃ later, Trace (listFrom c operation pages next).run es (some later) ∧
        listed = later.map (valuesOf page ++ ·) := by
  have mapped (later : Except Failure (List Json)) :
      (later >>= fun items => .ok (valuesOf page ++ items)) = later.map (valuesOf page ++ ·) := by
    cases later <;> rfl
  rw [listAfter, linked]
  simp only [trace_bindPure_iff, pageItems_eq, mapped]

/-- A listing that ends has walked through pages. -/
theorem walk_of_trace (run : Trace (listFrom c operation pages address).run es (some listed)) :
    ∃ readings, Walk c operation address pages readings es ∧ listed = gathered readings := by
  induction pages generalizing address es listed with
  | zero =>
    cases run with
    | ask impossible => exact impossible.elim
  | succ pages ih =>
    rw [listFrom_succ, trace_bindExcept_iff] at run
    rcases run with ⟨⟨⟩, -⟩ | ⟨f, same, first⟩ | ⟨page, before, after, rfl, first, rest⟩
    · cases same
      have walk : Walk c operation address (pages + 1) [⟨address, es, .error f⟩] es :=
        ⟨⟨rfl, trivial⟩, Nat.succ_pos pages, List.forall_mem_singleton.mpr first, (List.append_nil es).symm⟩
      exact ⟨_, walk, rfl⟩
    · let r : Reading := ⟨address, before, .ok page⟩
      have read : r.page = .ok page := rfl
      cases link : page.string? "nextLink" with
      | none =>
        obtain ⟨rfl, rfl⟩ := (trace_last link).mp rest
        have ends : Chain r.next? [] := by
          rw [Reading.next?_ok read, link]
          trivial
        have walk : Walk c operation address (pages + 1) [r] (before ++ []) :=
          ⟨⟨rfl, ends⟩, Nat.succ_pos pages, List.forall_mem_singleton.mpr first, rfl⟩
        exact ⟨_, walk, (gathered_last read).symm⟩
      | some next =>
        obtain ⟨later, run, rfl⟩ := (trace_linked link).mp rest
        obtain ⟨readings, ⟨chain, short, took, rfl⟩, rfl⟩ := ih run
        have goes_on : Chain r.next? readings := by
          rw [Reading.next?_ok read, link]
          exact chain
        have walk : Walk c operation address (pages + 1) (r :: readings) _ :=
          ⟨⟨rfl, goes_on⟩, Nat.succ_le_succ short, List.forall_mem_cons.mpr ⟨first, took⟩, rfl⟩
        exact ⟨_, walk, (gathered_ok readings read).symm⟩

/-- And a listing can walk through any pages that lead from one to the next. -/
theorem Walk.trace (walk : Walk c operation address pages readings es) :
    Trace (listFrom c operation pages address).run es (some (gathered readings)) := by
  obtain ⟨chain, short, took, rfl⟩ := walk
  induction readings generalizing address pages with
  | nil => exact chain.elim
  | cons r rest ih =>
    obtain ⟨rfl, chain⟩ := chain
    obtain ⟨first, others⟩ := List.forall_mem_cons.mp took
    cases pages with
    | zero => cases short
    | succ pages =>
      rw [listFrom_succ, trace_bindExcept_iff, List.flatMap_cons]
      cases read : r.page with
      | error f =>
        rw [read] at first
        rw [Reading.next?_error read] at chain
        cases rest with
        | cons next others => exact chain.elim
        | nil =>
          rw [gathered_error [] read, List.flatMap_nil, List.append_nil]
          exact .inr (.inl ⟨f, rfl, first⟩)
      | ok page =>
        rw [read] at first
        rw [Reading.next?_ok read] at chain
        refine .inr (.inr ⟨page, r.events, _, rfl, first, ?_⟩)
        cases link : page.string? "nextLink" with
        | none =>
          rw [link] at chain
          cases rest with
          | cons next others => exact chain.elim
          | nil => exact (trace_last link).mpr ⟨rfl, gathered_last read⟩
        | some next =>
          rw [link] at chain
          have later := ih chain (Nat.le_of_succ_le_succ short) others
          exact (trace_linked link).mpr ⟨_, later, gathered_ok rest read⟩

theorem trace_listFrom_iff :
    Trace (listFrom c operation pages address).run es (some listed) ↔
      ∃ readings, Walk c operation address pages readings es ∧ listed = gathered readings := by
  constructor
  · exact walk_of_trace
  · rintro ⟨readings, walk, rfl⟩
    exact walk.trace

end Management

namespace Account

variable {a : Account} {pages : Nat} {es : List (Event host)} {assets : Except Failure (List Asset)}

/-- Where the listing of the machines of a subscription starts. -/
def firstPage (a : Account) : String :=
  "https://management.azure.com/subscriptions/" ++ a.config.subscription ++
    "/providers/Microsoft.Compute/virtualMachines?api-version=2023-09-01"

def listing : String := "listing virtual machines"

/-- The listing of the machines of a subscription, of at most so many pages. -/
def listAssetsWithin (a : Account) (pages : Nat) : Action (List Asset) := do
  let machines ← Management.listFrom a.credential listing pages a.firstPage
  return machines.filterMap asset?

theorem firstPage_eq (a : Account) : a.firstPage = Management.address
    ("/subscriptions/" ++ a.config.subscription ++ "/providers/" ++ ResourceType.machine.path)
    ResourceType.machine.version := by
  have rest : "/providers/Microsoft.Compute/virtualMachines?api-version=2023-09-01" =
      "/providers/" ++ ("Microsoft.Compute/virtualMachines" ++ ("?api-version=" ++ "2023-09-01")) := by simp
  unfold firstPage Management.address ResourceType.machine
  rw [managementUrl_eq, rest]
  simp only [String.append_assoc]

theorem listAssets_eq (a : Account) : a.listAssets = a.listAssetsWithin Management.pageLimit := by
  rw [listAssetsWithin, firstPage_eq]
  rfl

theorem trace_listAssetsWithin_iff :
    Trace (a.listAssetsWithin pages).run es (some assets) ↔
      ∃ readings, Management.Walk a.credential listing a.firstPage pages readings es ∧
        assets = (Management.gathered readings).map (·.filterMap asset?) := by
  have found (machines : Except Failure (List Json)) :
      (machines >>= fun machines => .ok (machines.filterMap asset?)) = machines.map (·.filterMap asset?) := by
    cases machines <;> rfl
  have split : Trace (a.listAssetsWithin pages).run es (some assets) ↔
      ∃ machines, Trace (Management.listFrom a.credential listing pages a.firstPage).run es (some machines) ∧
        assets = machines >>= fun machines => .ok (machines.filterMap asset?) := trace_bindPure_iff
  simp only [split, found, Management.trace_listFrom_iff]
  constructor
  · rintro ⟨machines, ⟨readings, walk, rfl⟩, rfl⟩
    exact ⟨readings, walk, rfl⟩
  · rintro ⟨readings, walk, rfl⟩
    exact ⟨_, ⟨readings, walk, rfl⟩, rfl⟩

end Account

end ScanProvisioning.Azure
