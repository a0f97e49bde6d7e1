/-!
Why a text is not the address of a trace collector.
-/
set_option autoImplicit false

namespace Unannotate

inductive UrlFault
  | relative
  | emptyHost
  | port
  | ipv4
  | ipv6
  | domain
  | domainCharacter
  deriving DecidableEq, Repr

def UrlFault.detail : UrlFault → String
  | relative => "relative URL without a base"
  | emptyHost => "empty host"
  | port => "invalid port number"
  | ipv4 => "invalid IPv4 address"
  | ipv6 => "invalid IPv6 address"
  | domain => "invalid international domain name"
  | domainCharacter => "invalid domain character"

inductive EndpointFault
  | url (fault : UrlFault)
  | scheme (name : String)
  deriving DecidableEq, Repr

def EndpointFault.message : EndpointFault → String
  | url fault => "parse OTLP endpoint: " ++ fault.detail
  | scheme name => "OTLP endpoint must use http or https, got " ++ name

end Unannotate
