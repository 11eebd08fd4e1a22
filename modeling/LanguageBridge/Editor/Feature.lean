import LanguageBridge.Server.Capabilities

/-!
# Language features

The three things an editor asks a language server for.  Each is a request of its own, and a server
says in the handshake which of them it offers.
-/

namespace LanguageBridge.Editor

/-- A language feature. -/
inductive Feature where
  | completion
  | hover
  | signatureHelp
  deriving DecidableEq, Repr, Inhabited

namespace Feature

/-- All features, in the order in which their providers are registered. -/
def all : List Feature := [.completion, .hover, .signatureHelp]

/-- The method of the request for a feature. -/
def method : Feature → String
  | .completion => "textDocument/completion"
  | .hover => "textDocument/hover"
  | .signatureHelp => "textDocument/signatureHelp"

/-- Whether a server offers a feature. -/
def offeredBy (f : Feature) (c : Server.Capabilities) : Bool :=
  match f with
  | .completion => c.completion
  | .hover => c.hover
  | .signatureHelp => c.signatureHelp

theorem mem_all (f : Feature) : f ∈ all := by cases f <;> simp [all]

theorem method_inj {f g : Feature} (h : f.method = g.method) : f = g := by
  cases f <;> cases g <;> first | rfl | exact absurd h (by decide)

end Feature
end LanguageBridge.Editor
