import CallStream.Call.Catalog
import CallStream.Codec.Decode
import CallStream.Codec.Encode

/-!
# The parameters of a call

Reading and writing all the parameters of a call, as a guest sends them.
-/

namespace CallStream.CallDescriptor

/-- Reads every parameter with one way of mapping handles. -/
def decodeParams {σ ε : Type} (call : CallDescriptor) (mapper : HandleMapper σ ε)
    (mapping : HandleMapping) : Decoding σ ε Record :=
  decodeFields mapper mapping call.fields []

/-- Writes every parameter in order. -/
def encodeParams (call : CallDescriptor) (params : Record) : Emission :=
  encodeFields call.fields params

end CallStream.CallDescriptor
