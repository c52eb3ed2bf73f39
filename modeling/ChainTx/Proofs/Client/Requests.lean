import ChainTx.Client
import ChainTx.Proofs.Outcome

/-!
# What a request can say

Every request is checked and read before a key is looked up, and gives a way to make its message for
an account. `Operation.prepare_meets` says of all requests at once what comes out of that:

* **A refusal** is about an input or about a decimal in an order (`Refusal`), also if it is found
  only when the account is known.
* **A message** asks for the account that it is made for, and for no other, to sign. A new validator
  and its edits name the account in another role; that has the octets of the account.
-/

namespace ChainTx

/-- An error about what was asked for. -/
inductive Refusal : Error → Prop
  /-- An input was refused. -/
  | input (cause : InputError) : Refusal (.validation cause)
  /-- A price or a quantity is not a decimal. -/
  | decimal (cause : DecimalError) : Refusal (.build (.decimal cause))

/-- A step that may be refused as an input goes before one of which something is known. -/
theorem Refusal.input_bind {α β : Type} {Q : β → Prop} {x : Except InputError α}
    {f : α → Except Error β} (hf : ∀ a, Meets Refusal Q (f a)) :
    Meets Refusal Q (x.mapError .validation >>= f) :=
  (Meets.of_mapError .input x).bind fun a _ => hf a

/-! ### Orders -/

theorem Order.parse_meets (product side price quantity : String) :
    Meets Refusal (fun _ => True) (Order.parse product side price quantity) := by
  refine Refusal.input_bind fun side => ?_
  refine (Meets.of_mapError .decimal _).bind fun price _ => ?_
  exact (Meets.of_mapError .decimal _).bind fun quantity _ => trivial

namespace Operation

theorem ordersOf_meets (products sides prices quantities : List String) :
    Meets Refusal (fun _ => True) (ordersOf products sides prices quantities) := by
  induction products, sides, prices, quantities using ordersOf.induct with
  | case1 product products side sides price prices quantity quantities ih =>
    rw [ordersOf]
    refine (Order.parse_meets product side price quantity).bind fun order _ => ?_
    exact ih.bind fun orders _ => trivial
  | case2 products sides prices quantities h =>
    rw [ordersOf]
    · exact trivial
    · exact h

/-! ### Messages -/

/-- What is known of the message of a request: it asks for one account. -/
def SignedBy (account : AccountAddress) : Except Error Message → Prop :=
  Meets Refusal fun message => message.signers = [account]

/-- What is known of a request that was read: it can make a message for every account. -/
def MadeFor (make : AccountAddress → Except Error Message) : Prop :=
  ∀ account, SignedBy account (make account)

/-- A message whose amount is read when the account is known. -/
theorem madeFor_coin {text : String} {make : AccountAddress → Coin → Message}
    (h : ∀ account quantity, (make account quantity).signers = [account]) :
    MadeFor fun account => (coin text).map (make account) :=
  fun account => (Meets.of_mapError .input _).map fun quantity _ => h account quantity

/-- An operator with the octets of an account stands for that account. -/
theorem withRole_withRole {role target : Role} (a : Address role) :
    (a.withRole target).withRole role = a :=
  rfl

theorem signers_newValidator (description : Profile) (minSelfDelegation : Coin)
    (account : AccountAddress) (key : ConsensusKey) :
    (Message.newValidator description minSelfDelegation account key).signers = [account] := by
  rw [Message.newValidator, Message.signers, withRole_withRole]
  exact if_pos rfl

/-- **Every request** is refused for what it says, or makes a message for the account it is given
that asks for the signature of this account only. -/
theorem prepare_meets (name passphrase : String) (operation : Operation) :
    Meets Refusal MadeFor (operation.prepare name passphrase) := by
  cases operation with
  | send recipient coins =>
    refine Refusal.input_bind fun recipient => ?_
    exact Refusal.input_bind fun coins account => rfl
  | multiSend transfers =>
    refine Refusal.input_bind fun transfers => ?_
    exact Refusal.input_bind fun _ account => rfl
  | newOrder product side price quantity =>
    refine Refusal.input_bind fun _ => ?_
    exact (Order.parse_meets product side price quantity).bind fun order _ account => rfl
  | newOrders products sides prices quantities =>
    refine Refusal.input_bind fun _ => ?_
    -- the lists of prices and quantities are compared with that of products
    have horders : Meets Refusal MadeFor (do
        let orders ← ordersOf products sides prices quantities
        pure fun account => .ok (.newOrders account orders)) :=
      (ordersOf_meets products sides prices quantities).bind fun orders _ account => rfl
    split_ifs
    · exact .input _
    · exact horders
  | delegate quantity => exact Refusal.input_bind fun _ => madeFor_coin fun _ _ => rfl
  | undelegate quantity => exact Refusal.input_bind fun _ => madeFor_coin fun _ _ => rfl
  | createValidator key description minSelfDelegation =>
    refine Refusal.input_bind fun _ => ?_
    refine (Meets.of_mapError (fun _ => .input _) (ConsensusKey.parse key)).bind fun key _ => ?_
    refine Refusal.input_bind fun minSelfDelegation account => ?_
    exact signers_newValidator description minSelfDelegation account key
  | mint symbol amount => exact Refusal.input_bind fun _ account => rfl
  | cancelOrder id => exact Refusal.input_bind fun _ account => rfl
  | cancelOrders ids => exact Refusal.input_bind fun _ account => rfl
  | vote validators => exact Refusal.input_bind fun validators account => rfl
  | editValidator description => exact Refusal.input_bind fun _ account => rfl
  | destroyValidator => exact Refusal.input_bind fun _ account => rfl
  | unjail => exact Refusal.input_bind fun _ account => rfl
  | registerProxy => exact Refusal.input_bind fun _ account => rfl
  | unregisterProxy => exact Refusal.input_bind fun _ account => rfl
  | bindProxy proxy => exact Refusal.input_bind fun proxy account => rfl
  | unbindProxy => exact Refusal.input_bind fun _ account => rfl

/-- The message of a request for an account. -/
def message (name passphrase : String) (operation : Operation) (account : AccountAddress) :
    Except Error Message :=
  operation.prepare name passphrase >>= fun make => make account

theorem message_signedBy (name passphrase : String) (operation : Operation)
    (account : AccountAddress) : SignedBy account (operation.message name passphrase account) :=
  (prepare_meets name passphrase operation).bind fun _ hmake => hmake account

theorem signers_message {name passphrase : String} {operation : Operation}
    {account : AccountAddress} {message : Message}
    (h : operation.message name passphrase account = .ok message) : message.signers = [account] :=
  (message_signedBy name passphrase operation account).of_ok h

end Operation

end ChainTx
