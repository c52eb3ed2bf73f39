/-!
# What can go wrong with a key

The causes for which a key store refuses a request, and the text that is told for each.
-/

namespace ChainTx

/-- Why a key store refuses a request. -/
inductive KeyError where
  /-- No key has the name. -/
  | notFound (name : String)
  /-- A key has the name already. -/
  | alreadyExists (name : String)
  /-- The passphrase is not that of the key. -/
  | authentication
  /-- A text is not a mnemonic phrase. -/
  | mnemonic (text : String)
  /-- No key can be made from what is given. -/
  | derivation (text : String)
  /-- Nothing could be signed with the key. -/
  | signing (text : String)
deriving DecidableEq, Repr

namespace KeyError

/-- What is told about a request that is refused. -/
def message : KeyError → String
  | notFound name => s!"Key \"{name}\" not found"
  | alreadyExists name => s!"Key \"{name}\" already exists"
  | authentication => "Invalid passphrase"
  | mnemonic text => s!"Invalid mnemonic: {text}"
  | derivation text => s!"Key derivation failed: {text}"
  | signing text => s!"Signing failed: {text}"

end KeyError

end ChainTx
