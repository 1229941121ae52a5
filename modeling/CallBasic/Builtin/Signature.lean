import CallBasic.Builtin.Adapter
/-!
# Signatures

What a registry holds under a name is a signature: something called with the environment and
the argument values, which gives a value back. A signature made by adapting a host function (a
`Builtin`) carries the function's call shape as its metadata. A raw signature, registered as it
is, carries none: a call hands it the argument values as they are, and what it gives back is the
call's value. Asked for its metadata, a raw signature reports only the arity it is registered
with, and it counts as giving a value.
-/

namespace CallBasic

/-- A signature registered as it is: a host callable, known by its name, that receives the
argument values and gives a value back. -/
structure RawSignature where
  name : CodeString
  run : List HostValue → HostM Value

/-- What a registry holds under a name: an adapted builtin, or a raw signature. -/
inductive Signature where
  | adapted (b : Builtin)
  | raw (r : RawSignature)

/-- The metadata reported for a registered signature: the call shape of an adapted builtin, or
only the registered arity of a raw signature. -/
inductive SignatureMeta where
  | shape (c : CallShape)
  | arity (n : Int)

namespace Signature

/-- Calls a signature with argument values. -/
def invoke : Signature → List HostValue → HostM Value
  | .adapted b, args => b.invoke args
  | .raw r, args => r.run args

/-- The name of the host callable behind a signature. -/
def hostName : Signature → CodeString
  | .adapted b => b.fn.name
  | .raw r => r.name

/-- The metadata of a signature registered with an arity. -/
def metadata (arity : Int) : Signature → SignatureMeta
  | .adapted b => .shape b.shape
  | .raw _ => .arity arity

end Signature

/-- Whether a call of a signature with this metadata gives a value worth showing: every call
does, except one whose call shape declares that it returns nothing. -/
def SignatureMeta.returnsValue : SignatureMeta → Bool
  | .shape c => c.output != .none
  | .arity _ => true

end CallBasic
