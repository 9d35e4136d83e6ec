import HttpAuth.Run

/-!
# The HTTP client

A client is made from settings or handed in from outside.  Only a client that was made here is
closed here.
-/

namespace HttpAuth

/-- An HTTP client. -/
structure Client where
  /-- The client was made here. -/
  owned : Bool
  deriving Repr, DecidableEq

namespace Client

/-- Make a client. -/
def make (settings : Settings) : Run Client := do
  Run.emit (.clientOpen settings.clientOptions)
  return { owned := true }

/-- Take a client from outside. -/
def borrow : Client := { owned := false }

/-- Close a client that was made here. -/
def close (client : Client) : Run Unit :=
  if client.owned then Run.emit .clientClose else return

/-- Run a computation and close the client, whether or not the computation fails. -/
def during {α : Type} (client : Client) (action : Run α) : Run α :=
  Run.ensuring action client.close

end Client
end HttpAuth
