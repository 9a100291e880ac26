import ScanProvisioning.Client

namespace ScanProvisioning

/-- A program over a provider's clients that ends in a value or a setback. -/
abbrev Pass (α : Type) := ExceptT Setback (Program clients) α

namespace Pass

/-- Ask a client; its failure is part of the answer. -/
def ask (c : ClientCall) : Pass c.Reply := ExceptT.lift (Program.call (I := clients) c)

def giveUp {α : Type} (activity : String) (f : Failure) : Pass α := throw (f.setback.during activity)

end Pass

end ScanProvisioning
