import TunProxy.UpstreamConfig

/-!
# The generated core configuration

The JSON text that sing-box is started with.  Everything in it is fixed except
the log path, the interface name, the upstream and the bypass list, which
appears twice: as addresses that routing excludes and in the first route rule.
-/

namespace TunProxy

open ByteText

def kTunAddress : Bytes := ascii "198.18.0.1/30"
def kTunMtu : Nat := 1500
def kDnsServerAddress : Bytes := ascii "1.1.1.1"
def kDnsServerPort : Nat := 443
def kDnsServerPath : Bytes := ascii "/dns-query"
def kDnsServerName : Bytes := ascii "cloudflare-dns.com"

structure ResolvedUpstream where
  configured : Upstream
  address : Bytes

structure SingBoxRuntimeConfig where
  logFile : Bytes
  upstream : ResolvedUpstream
  bypassCidrs : List Bytes
  autoRedirect : Bool
  interfaceName : Bytes

/-- One character of a JSON string. -/
def jsonEscapeByte (character : UInt8) : Bytes :=
  if character = 34 then ascii "\\\""
  else if character = 92 then ascii "\\\\"
  else if character = 8 then ascii "\\b"
  else if character = 12 then ascii "\\f"
  else if character = 10 then ascii "\\n"
  else if character = 13 then ascii "\\r"
  else if character = 9 then ascii "\\t"
  else if character < 0x20 then
    ascii "\\u00" ++ [(ascii "0123456789abcdef").getD (character.toNat / 16) 0,
      (ascii "0123456789abcdef").getD (character.toNat % 16) 0]
  else [character]

def jsonEscape (input : Bytes) : Bytes :=
  input.flatMap jsonEscapeByte

def jsonString (value : Bytes) : Bytes :=
  ascii "\"" ++ jsonEscape value ++ ascii "\""

def writeStringArray (values : List Bytes) : Bytes :=
  ascii "[" ++ (ascii ", ").intercalate (values.map jsonString) ++ ascii "]"

/-- The text in front of the exclusion list. -/
def configFront (config : SingBoxRuntimeConfig) : Bytes :=
  ascii "\x7b\n" ++
    ascii "  \"log\": \x7b\"level\": \"info\", \"timestamp\": true, \"output\": \"" ++
    jsonEscape config.logFile ++ ascii "\"\x7d,\n" ++
    ascii "  \"dns\": \x7b\n" ++
    ascii "    \"servers\": [\x7b\"type\": \"https\", \"tag\": \"proxy-doh\", " ++
    ascii "\"server\": \"" ++ kDnsServerAddress ++ ascii "\", \"server_port\": " ++
    formatNat kDnsServerPort ++ ascii ", \"path\": \"" ++ kDnsServerPath ++ ascii "\", " ++
    ascii "\"tls\": \x7b\"enabled\": true, \"server_name\": \"" ++ kDnsServerName ++
    ascii "\"\x7d, " ++ ascii "\"detour\": \"proxy\"\x7d],\n" ++
    ascii "    \"final\": \"proxy-doh\", \"strategy\": \"prefer_ipv4\"\n" ++
    ascii "  \x7d,\n" ++
    ascii "  \"inbounds\": [\x7b\n" ++
    ascii "    \"type\": \"tun\", \"tag\": \"tun-in\", \"interface_name\": \"" ++
    jsonEscape config.interfaceName ++ ascii "\",\n" ++
    ascii "    \"address\": [\"" ++ kTunAddress ++ ascii "\"], \"mtu\": " ++ formatNat kTunMtu ++
    ascii ", \"auto_route\": true,\n" ++
    ascii "    \"auto_redirect\": " ++
    (if config.autoRedirect then ascii "true" else ascii "false") ++
    ascii ", \"strict_route\": true, \"stack\": \"system\",\n"

/-- The text between the exclusion list and the route rules. -/
def configMiddle (config : SingBoxRuntimeConfig) : Bytes :=
  ascii "\n" ++
    ascii "  \x7d],\n" ++
    ascii "  \"outbounds\": [\x7b\n" ++
    ascii "    \"type\": \"socks\", \"tag\": \"proxy\", \"server\": \"" ++
    jsonEscape config.upstream.address ++ ascii "\", \"server_port\": " ++
    formatNat config.upstream.configured.port.toNat ++
    ascii ", \"version\": \"5\", \"network\": \"tcp\"\n" ++
    ascii "  \x7d, \x7b\"type\": \"direct\", \"tag\": \"direct\"\x7d],\n" ++
    ascii "  \"route\": \x7b\n"

/-- The route rules, the first of them with the bypass list. -/
def configRules (config : SingBoxRuntimeConfig) : Bytes :=
  ascii "[\x7b\"ip_cidr\": " ++ writeStringArray config.bypassCidrs ++
    ascii ", \"action\": \"route\", \"outbound\": \"direct\"\x7d, " ++
    ascii "\x7b\"port\": 53, \"action\": \"hijack-dns\"\x7d, " ++
    ascii "\x7b\"network\": \"udp\", \"action\": \"reject\"\x7d]"

/-- The text behind the route rules. -/
def configBack : Bytes :=
  ascii ",\n" ++
    ascii "    \"final\": \"proxy\", \"auto_detect_interface\": true\n" ++
    ascii "  \x7d\n" ++
    ascii "\x7d\n"

def buildSingBoxConfig (config : SingBoxRuntimeConfig) : Result Bytes :=
  if config.upstream.address.isEmpty then
    .error (makeError .invalidConfiguration (ascii "resolved upstream address is empty"))
  else if config.bypassCidrs.isEmpty then
    .error (makeError .invalidConfiguration (ascii "bypass policy is empty"))
  else
    .ok (configFront config ++
      ascii "    \"route_exclude_address\": " ++ writeStringArray config.bypassCidrs ++
      configMiddle config ++
      ascii "    \"rules\": " ++ configRules config ++
      configBack)

/-! ## Route rules -/

inductive RouteAction
  | route (outbound : Bytes)
  | hijackDns
  | reject
  deriving DecidableEq, Repr

/-- A rule applies to the packets that meet all criteria it has. -/
structure RouteRule where
  ipCidr : Option (List Bytes) := none
  port : Option Nat := none
  network : Option Bytes := none
  action : RouteAction

def RouteAction.write : RouteAction → Bytes
  | .route outbound => ascii "\"action\": \"route\", \"outbound\": " ++ jsonString outbound
  | .hijackDns => ascii "\"action\": \"hijack-dns\""
  | .reject => ascii "\"action\": \"reject\""

/-- A rule as a JSON object. -/
def RouteRule.write (rule : RouteRule) : Bytes :=
  ascii "\x7b" ++
    (match rule.ipCidr with
      | some cidrs => ascii "\"ip_cidr\": " ++ writeStringArray cidrs ++ ascii ", "
      | none => []) ++
    (match rule.port with
      | some port => ascii "\"port\": " ++ formatNat port ++ ascii ", "
      | none => []) ++
    (match rule.network with
      | some network => ascii "\"network\": " ++ jsonString network ++ ascii ", "
      | none => []) ++
    rule.action.write ++ ascii "\x7d"

/-- The rules that a configuration with a given bypass list has. -/
def routeRules (bypassCidrs : List Bytes) : List RouteRule :=
  [{ ipCidr := some bypassCidrs, action := .route (ascii "direct") },
    { port := some 53, action := .hijackDns },
    { network := some (ascii "udp"), action := .reject }]

/-- The rules stand in the generated text. -/
theorem configRules_eq (config : SingBoxRuntimeConfig) :
    configRules config = ascii "[" ++
      (ascii ", ").intercalate ((routeRules config.bypassCidrs).map RouteRule.write) ++
      ascii "]" := by
  have second : RouteRule.write { port := some 53, action := .hijackDns } =
      ascii "\x7b\"port\": 53, \"action\": \"hijack-dns\"\x7d" := by decide
  have third : RouteRule.write { network := some (ascii "udp"), action := .reject } =
      ascii "\x7b\"network\": \"udp\", \"action\": \"reject\"\x7d" := by decide
  have direct : RouteAction.write (.route (ascii "direct")) =
      ascii "\"action\": \"route\", \"outbound\": \"direct\"" := by decide
  have front : ascii "[\x7b\"ip_cidr\": " =
      ascii "[" ++ (ascii "\x7b" ++ ascii "\"ip_cidr\": ") := by decide
  have back : ascii ", \"action\": \"route\", \"outbound\": \"direct\"\x7d, " ++
      ascii "\x7b\"port\": 53, \"action\": \"hijack-dns\"\x7d, " ++
      ascii "\x7b\"network\": \"udp\", \"action\": \"reject\"\x7d]" =
      ascii ", " ++ (ascii "\"action\": \"route\", \"outbound\": \"direct\"" ++ ascii "\x7d") ++
        (ascii ", " ++ ascii "\x7b\"port\": 53, \"action\": \"hijack-dns\"\x7d") ++
        (ascii ", " ++ ascii "\x7b\"network\": \"udp\", \"action\": \"reject\"\x7d") ++
        ascii "]" := by
    decide
  have joined (first : Bytes) : (ascii ", ").intercalate
      [first, ascii "\x7b\"port\": 53, \"action\": \"hijack-dns\"\x7d",
        ascii "\x7b\"network\": \"udp\", \"action\": \"reject\"\x7d"] =
      first ++ (ascii ", " ++ ascii "\x7b\"port\": 53, \"action\": \"hijack-dns\"\x7d") ++
        (ascii ", " ++ ascii "\x7b\"network\": \"udp\", \"action\": \"reject\"\x7d") := by
    simp [List.intercalate, List.intersperse]
  simp only [List.append_assoc] at back
  simp only [configRules, routeRules, List.map_cons, List.map_nil, second, third, joined,
    List.append_assoc, back]
  rw [front]
  simp only [RouteRule.write, direct, List.append_assoc, List.append_nil]

end TunProxy
