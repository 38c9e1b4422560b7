namespace TrialBench

-- An error as it is shown: its own text, then the texts of its causes, nearest first.
structure ErrorChain where
  text : String
  causes : List String
  deriving DecidableEq

namespace ErrorChain

def leaf (text : String) : ErrorChain := ⟨text, []⟩

-- The wrapping error speaks first and keeps every text of the wrapped one below it.
def wrap (text : String) (inner : ErrorChain) : ErrorChain := ⟨text, inner.text :: inner.causes⟩

def texts (chain : ErrorChain) : List String := chain.text :: chain.causes

def ofTexts : List String → ErrorChain
  | [] => leaf ""
  | text :: causes => ⟨text, causes⟩

def item (cause : String) : String := "\n  - " ++ cause

-- One heading for all causes, and none when there is no cause.
def render (chain : ErrorChain) : String :=
  match chain.causes with
  | [] => chain.text
  | causes => chain.text ++ "\n  caused by:" ++ String.join (causes.map item)

@[simp] theorem texts_wrap (text : String) (inner : ErrorChain) :
    (wrap text inner).texts = text :: inner.texts := rfl

end ErrorChain
end TrialBench
