import Doip.Config.Basic
import Doip.Text.Blank

/-! When settings can be used: times are not zero, conversations have names of their own, and a server is
mapped once. `Config.violation?` gives the first rule that is broken, in the order of the document. -/

namespace Doip

inductive Violation
  | zeroDiscoveryTimeout
  | blankName
  | duplicateName (name : String)
  | zeroTimeout (name field : String)
  | duplicateServer (target : Address)
deriving DecidableEq, Repr

def Violation.message : Violation → String
  | zeroDiscoveryTimeout => "discovery.timeout_ms must be non-zero"
  | blankName => "conversation name is empty"
  | duplicateName name => s!"duplicate conversation name: {name}"
  | zeroTimeout name field => s!"{name}: {field} must be non-zero"
  | duplicateServer target => s!"duplicate server logical address {Hex.wordText target}"

namespace ConversationSettings

/-- The first rule a conversation breaks, when those before it have the names `seen`. -/
def violation? (seen : List String) (c : ConversationSettings) : Option Violation :=
  if c.name.toList.all Blank.isBlank then some .blankName
  else if c.name ∈ seen then some (.duplicateName c.name)
  else (c.timeouts.find? (·.2 = 0)).map fun (field, _) => .zeroTimeout c.name field

end ConversationSettings

namespace Config

def conversationViolation? : (seen : List String) → List ConversationSettings → Option Violation
  | _, [] => none
  | seen, c :: cs => (c.violation? seen).or (conversationViolation? (c.name :: seen) cs)

def serverViolation? : (seen : List Address) → List ServerMapping → Option Violation
  | _, [] => none
  | seen, s :: ss =>
    if s.logicalAddress ∈ seen then some (.duplicateServer s.logicalAddress)
    else serverViolation? (s.logicalAddress :: seen) ss

def violation? (c : Config) : Option Violation :=
  if c.discovery.timeout = 0 then some .zeroDiscoveryTimeout
  else (conversationViolation? [] c.conversations).or (serverViolation? [] c.servers)

end Config
end Doip
