import ScanProvisioning.Proofs.Azure.Listing
import ScanProvisioning.Proofs.Azure.Removal
import ScanProvisioning.Proofs.Docker.Filling
import ScanProvisioning.Proofs.Docker.Listing
import ScanProvisioning.Proofs.Together

namespace ScanProvisioning

open Program

/-- A provider as discovery sees it: its kind and what answers the calls of its clients. -/
structure Lister where
  host : Interface
  kind : ProviderKind
  answer : (c : ClientCall) → Program host c.Reply

namespace Lister

variable {l : Lister}

def listing (l : Lister) : Program l.host (Except Setback (List Asset)) := Pass.discover.run.interpret l.answer

/-- What the listing of a provider adds to what is found: all of it, or nothing if it failed. -/
def tagged (l : Lister) (now : Timestamp) : Except Failure (List Asset) → List DiscoveredAsset
  | .ok assets => assets.map fun asset => { provider := l.kind, asset, discoveredAt := now }
  | .error _ => []

theorem listing_eq (l : Lister) :
    l.listing = l.answer .listAssets >>= fun listed => .done (listed.mapError Failure.setback) := by
  have asked : Pass.discover.run =
      (Program.call (I := clients) .listAssets >>= fun listed => .done (listed.mapError Failure.setback)) := by
    refine congrArg (Program.ask (I := clients) ClientCall.listAssets) (funext fun listed => ?_)
    cases listed <;> rfl
  rw [listing, asked, interpret_bind, interpret_call]
  rfl

/-- Discovery learns of a listing what the clients answer, and of a failure what it means. -/
theorem trace_listing_iff {es : List (Event l.host)} {result : Except Setback (List Asset)} :
    Trace l.listing es (some result) ↔
      ∃ listed, Trace (l.answer .listAssets) es (some listed) ∧ result = listed.mapError Failure.setback := by
  rw [listing_eq, trace_bind_iff]
  constructor
  · rintro (⟨⟨⟩, -⟩ | ⟨listed, before, after, rfl, run, rest⟩)
    cases rest
    rw [List.append_nil]
    exact ⟨listed, run, rfl⟩
  · rintro ⟨listed, run, rfl⟩
    exact .inr ⟨listed, es, [], (List.append_nil es).symm, run, .done _⟩

end Lister

/-- Asking all providers at the same time, and what is found. -/
def Discovers (listers : List Lister) (now : Timestamp) (steps : Steps fun i => (listers.get i).host)
    (found : List DiscoveredAsset) : Prop :=
  ∃ results, Together (fun i => (listers.get i).listing) steps results ∧
    found = discoverAll now (List.ofFn fun i => ((listers.get i).kind, results i))

variable {listers : List Lister} {now : Timestamp}

theorem discoverAll_eq (listed : (i : Fin listers.length) → Except Failure (List Asset)) :
    discoverAll now (List.ofFn fun i => ((listers.get i).kind, (listed i).mapError Failure.setback)) =
      (List.ofFn fun i => (listers.get i).tagged now (listed i)).flatten := by
  rw [discoverAll, List.flatMap_def, List.map_ofFn]
  congr 2
  funext i
  rw [Function.comp]
  cases listed i <;> rfl

/-- What is found is what the providers list, each by itself. -/
theorem discovers_iff {steps : Steps fun i => (listers.get i).host} {found : List DiscoveredAsset} :
    Discovers listers now steps found ↔
      ∃ listed : Fin listers.length → Except Failure (List Asset),
        (∀ i, Trace ((listers.get i).answer .listAssets) (own i steps) (some (listed i))) ∧
          found = (List.ofFn fun i => (listers.get i).tagged now (listed i)).flatten := by
  constructor
  · rintro ⟨results, together, rfl⟩
    obtain ⟨listed, each⟩ := Classical.skolem.mp fun i =>
      Lister.trace_listing_iff.mp (together_iff.mp together i)
    have same : results = fun i => (listed i).mapError Failure.setback := funext fun i => (each i).2
    rw [same, discoverAll_eq]
    exact ⟨listed, fun i => (each i).1, rfl⟩
  · rintro ⟨listed, run, rfl⟩
    refine ⟨fun i => (listed i).mapError Failure.setback, together_iff.mpr fun i => ?_,
      (discoverAll_eq listed).symm⟩
    exact Lister.trace_listing_iff.mpr ⟨listed i, run i, rfl⟩

/-- A provider whose clients answer as they are asked. -/
def answering (kind : ProviderKind) : Lister where
  host := clients
  kind := kind
  answer call := Program.call (I := clients) call

def answeredWith (listed : Except Failure (List Asset)) : Event clients := ⟨.listAssets, listed⟩

end ScanProvisioning
