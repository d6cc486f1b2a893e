import TcpSessions.Work.Environment
/-!
# Name lookup through the system

A literal address is its own result. Any other name is looked up by the system; of the answer only
the entries of the requested family count, without their scope, each address once.

| here | `infrastructure.net.resolver` |
| --- | --- |
| `Address.literal?` | `parse_literal` |
| `Lookup.resolve`, `Lookup.reverse` | `SystemResolver.resolve`, `.reverse_resolve` |
-/
namespace TcpSessions.Lookup

variable {ω : Type}

def textFailure : Address.TextError → Failure
  | .embeddedNul => .of .embeddedNul
  | .familyNotSupported =>
    .of (.system .general (.coded Errno.familyNotSupported (Errno.text Errno.familyNotSupported)))
  | .illegal => .of .illegalAddressText

/-- An address text without its scope: everything before the first percent sign. -/
def withoutScope (host : String) : String := String.ofList (host.toList.takeWhile (· ≠ '%'))

/-- Adds to `found` the addresses of a family in the order of the entries, each once. -/
def collect (family : Family) : List Address.Bytes → List AddressInfo →
    Except Failure (List Address.Bytes)
  | found, [] => .ok found
  | found, info :: rest =>
    if info.family = family.number then
      match Address.ofText family (withoutScope info.host) with
      | .error e => .error (textFailure e)
      | .ok bytes => collect family (if bytes ∈ found then found else found ++ [bytes]) rest
    else collect family found rest

/-- What a failed system lookup says about itself, when it means that the name does not resolve. -/
def refusal? (f : Failure) : Option (Option String) :=
  match f.reason with
  | .system .nameLookup d => some d.strerror?
  | .fault .unicode d => some (some d.faultText)
  | _ => none

/-- The candidate addresses of a name in a family. -/
def resolve (h : Host ω) (token : Option TokenId) (name : String) (family : Family) :
    Act ω (List Address.Bytes) := do
  match Address.literal? family name with
  | some bytes => return [bytes]
  | none =>
    match ← h.call token (.addressInfo name family) with
    | .error f =>
      match refusal? f with
      | some detail =>
        Act.notice (.lookupFailed name family.name f.reason.message)
        Act.fail ((Failure.of (.resolution name detail)).causedBy f)
      | none => Act.fail f
    | .ok infos =>
      let found ← Act.ofExcept (collect family [] infos)
      if found.isEmpty then
        Act.fail (.of (.resolution name (some ("no " ++ family.name ++ " addresses"))))
      else
        Act.notice (.resolved name found.length)
        return found

/-- The name of a packed address, when the system knows one; a refused lookup knows none. -/
def reverse (h : Host ω) (bytes : Address.Bytes) (family : Family) : Act ω (Option String) := do
  match Address.ofBytes? family bytes with
  | none => return none
  | some address =>
    match ← h.call none (.hostByAddress address.text) with
    | .ok name => return name
    | .error f => if f.isSystem || f.reason.isA .value then return none else Act.fail f

end TcpSessions.Lookup
