import TrialBench.Registry.Discovery
import TrialBench.Text.Quoted
namespace TrialBench

-- What is known of a registered name: its parent, and the factory that makes its
-- test unless it is only there to be derived from.
structure Registered (φ : Type) where
  parent : Option String
  factory : Option φ

structure Registry (φ : Type) where
  classes : List (String × Registered φ)

namespace Registry

variable {φ : Type}

def empty : Registry φ := ⟨[]⟩

-- A name that is already there keeps its place and takes the new registration.
def put (name : String) (entry : Registered φ) :
    List (String × Registered φ) → List (String × Registered φ)
  | [] => [(name, entry)]
  | (known, old) :: rest =>
    if known = name then (known, entry) :: rest else (known, old) :: put name entry rest

def register (registry : Registry φ) (name : String) (entry : Registered φ) : Registry φ :=
  ⟨put name entry registry.classes⟩

def registerTest (registry : Registry φ) (name : String) (factory : φ) : Registry φ :=
  registry.register name ⟨some baseClass, some factory⟩

def registerSubtest (registry : Registry φ) (name parent : String) (factory : φ) : Registry φ :=
  registry.register name ⟨some parent, some factory⟩

-- A class without a factory: a shared ancestor, or no test at all.
def registerClass (registry : Registry φ) (name : String) (parent : Option String) : Registry φ :=
  registry.register name ⟨parent, none⟩

def size (registry : Registry φ) : Nat := registry.classes.length
def isEmpty (registry : Registry φ) : Bool := registry.classes.isEmpty
def names (registry : Registry φ) : List String := registry.classes.map (·.1)

def lookup (registry : Registry φ) (name : String) : Option (Registered φ) :=
  (registry.classes.find? (·.1 == name)).map (·.2)

-- The base class can be resolved even if nobody registered it. A registration of
-- its name comes first and hides the entry that is always there.
def catalog (registry : Registry φ) : Catalog where
  listing := .ok registry.names
  entries := registry.classes.map (fun (name, entry) => ⟨name, ⟨name, entry.parent⟩⟩) ++
    [⟨baseClass, ⟨baseClass, none⟩⟩]

def resolve (registry : Registry φ) (name : String) : Option ClassInfo :=
  registry.catalog.resolve name

def discover (registry : Registry φ) : List LogEvent × Except DiscoveryError (List String) :=
  registry.catalog.discover

def factoryOf (registry : Registry φ) (name : String) : Option φ :=
  (registry.lookup name).bind (·.factory)

-- All factories are found before any is used; the first name without one is the error.
def factories (registry : Registry φ) : List String → Except DiscoveryError (List φ)
  | [] => .ok []
  | name :: rest =>
    match registry.factoryOf name with
    | none => .error (.notInstantiable name)
    | some factory => (registry.factories rest).map (factory :: ·)

-- The factories to use, one per discovered name and in that order.
def instantiate (registry : Registry φ) : List LogEvent × Except DiscoveryError (List φ) :=
  let (said, found) := registry.discover
  (said, found.bind registry.factories)

-- The tests of the discovered classes, made by calling the factories one after the other. A factory is called
-- with the context that the tests share, and may have effects of its own.
def createTests {m : Type → Type} [Monad m] {γ τ : Type} (registry : Registry φ) (call : φ → γ → m τ) (context : γ) :
    m (List LogEvent × Except DiscoveryError (List τ)) :=
  match registry.instantiate with
  | (said, .error failure) => pure (said, .error failure)
  | (said, .ok factories) => do
    let tests ← factories.mapM fun factory => call factory context
    return (said, .ok tests)

def showParent : Option String → String
  | none => "None"
  | some parent => "Some(" ++ Text.quote parent ++ ")"

def debugText (registry : Registry φ) : String :=
  "\x7b" ++ String.intercalate ", "
    (registry.classes.map fun (name, entry) => Text.quote name ++ ": " ++ showParent entry.parent)
    ++ "\x7d"

end Registry
end TrialBench
