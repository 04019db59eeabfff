import Toolsmith.Unit.Input

/-!
# The text of a unit

A unit is written line by line. Most lines are fixed; the others hold the parts of the unit's
context, every text as a literal that stands on its line.
-/

namespace Toolsmith.Source

/-- The end of the opening text, and the libraries that a unit uses. -/
def introduction : List String := [
  "",
  "Generated by toolgen; edits are overwritten on the next run.",
  "\"\"\"",
  "",
  "from __future__ import annotations",
  "",
  "import json",
  "from typing import Any, Mapping",
  "from urllib.parse import quote",
  "",
  "import httpx",
  ""]

/-- The helper for values, and the beginning of the function up to the inputs. -/
def helpers : List String := [
  "\x7d",
  "",
  "",
  "def _text(value: Any) -> str:",
  "    if isinstance(value, bool):",
  "        return \"true\" if value else \"false\"",
  "    if isinstance(value, (dict, list)):",
  "        return json.dumps(value)",
  "    return str(value)",
  "",
  "",
  "async def run(",
  "    context: Mapping[str, Any] | None,",
  "    inputs: Mapping[str, Any] | None = None,",
  "    *,",
  "    transport: httpx.AsyncBaseTransport | None = None,",
  ") -> str:",
  "    \"\"\"Call the endpoint and return the response body or an error message.",
  "",
  "    ``context`` is mandatory and must provide the Workday hostname and",
  "    bearer token under HOST_VARIABLE and TOKEN_VARIABLE. Never raises.",
  "    \"\"\"",
  "    context = context or \x7b\x7d",
  "    hostname = context.get(HOST_VARIABLE)",
  "    access_token = str(context.get(TOKEN_VARIABLE) or \"\").strip()",
  "",
  "    if not hostname or not access_token:",
  "        return (",
  "            \"Error: Workday connection not configured. \"",
  "            f\"Set the '\x7bHOST_VARIABLE\x7d' and '\x7bTOKEN_VARIABLE\x7d' variables in the tool context.\"",
  "        )",
  "",
  "    inputs = inputs or \x7b\x7d"]

/-- How the parts of a query are put together. -/
def queryEnd : List String := [
  "    if query_parts:",
  "        api_path += \"?\" + \"&\".join(query_parts)"]

/-- The headers of a request. -/
def headers : List String := [
  "",
  "    headers = \x7b",
  "        \"Content-Type\": \"application/json\",",
  "        \"Authorization\": f\"Bearer \x7baccess_token\x7d\",",
  "    \x7d"]

/-- The beginning of a request. -/
def requestStart : List String := [
  "",
  "    try:",
  "        async with httpx.AsyncClient(transport=transport, timeout=TIMEOUT) as client:",
  "            response = await client.request("]

/-- The address and the headers of a request. -/
def requestTarget : List String := [
  "                f\"https://\x7bhostname\x7d\x7bapi_path\x7d\",",
  "                headers=headers,"]

/-- The end of a request, and how its answer is reported. -/
def ending : List String := [
  "            )",
  "    except (httpx.HTTPError, httpx.InvalidURL, UnicodeError) as exc:",
  "        return (",
  "            f\"Request failed: \x7bexc\x7d. \"",
  "            f\"Verify the '\x7bHOST_VARIABLE\x7d' variable contains a valid Workday hostname.\"",
  "        )",
  "",
  "    body = response.text",
  "    if 200 <= response.status_code < 300:",
  "        return body",
  "",
  "    hint = ERROR_MAP.get(response.status_code, f\"HTTP \x7bresponse.status_code\x7d error.\")",
  "    detail = body[:300]",
  "    try:",
  "        parsed = json.loads(body)",
  "    except ValueError:",
  "        parsed = None",
  "    if isinstance(parsed, dict) and parsed.get(\"error\"):",
  "        detail = _text(parsed[\"error\"])[:300]",
  "    return f\"Workday API error \x7bresponse.status_code\x7d: \x7bhint\x7d\\nResponse: \x7bdetail\x7d\""]

/-- Lines of fixed text, each ended. -/
def fixed (lines : List String) : Text :=
  lines.flatMap fun line => Text.ofString line ++ [.char '\n']

/-- A line made of pieces, ended. -/
def line (pieces : List Text) : Text :=
  pieces.flatten ++ [.char '\n']

/-- The text that opens a unit: its summary, or its method and path, and then these two. -/
def opening (c : Context) : Text :=
  let request := c.method ++ .char ' ' :: c.path
  line [Text.ofString "\"\"\"", if c.summary.isEmpty then request else c.summary] ++
    line [] ++ line [request]

/-- The variables under which a unit finds its host and its token. -/
def ambient : Text :=
  line [Text.ofString "HOST_VARIABLE = ", Context.hostVariable.quoted] ++
    line [Text.ofString "TOKEN_VARIABLE = ", Context.tokenVariable.quoted] ++
    fixed ["TIMEOUT = 30.0", ""]

/-- The line of a hint. -/
def hintLine (hint : Hint) : Text :=
  line [Text.ofString "    ", Text.ofNat hint.status, Text.ofString ": ", hint.text.quoted,
    Text.ofString ","]

/-- The table of hints. -/
def hintTable (hints : List Hint) : Text :=
  fixed ["ERROR_MAP = \x7b"] ++ hints.flatMap hintLine

/-- The line that reads an input. -/
def bindingLine (b : Binding) : Text :=
  line [Text.ofString "    ", b.identifier, Text.ofString " = inputs.get(", b.name.quoted,
    Text.ofString ")"]

/-- The lines that add a key to the query. -/
def queryLines (key : QueryKey) : Text :=
  line [Text.ofString "    if ", key.identifier, Text.ofString " is not None:"] ++
    line [Text.ofString "        query_parts.append(", key.start.quoted,
      Text.ofString " + quote(_text(", key.identifier, Text.ofString "), safe=",
      Context.querySafe.quoted, Text.ofString "))"]

/-- The lines that build the query, if there is one. -/
def queryPart (keys : List QueryKey) : Text :=
  if keys.isEmpty then []
  else fixed ["    query_parts = []"] ++ keys.flatMap queryLines ++ fixed queryEnd

/-- The lines that prepare a body. -/
def bodyLines (identifier : Text) : Text :=
  fixed ["    body_data = None"] ++
    line [Text.ofString "    if ", identifier, Text.ofString " is not None:"] ++
    line [Text.ofString "        body_data = ", identifier, Text.ofString " if isinstance(",
      identifier, Text.ofString ", str) else json.dumps(", identifier, Text.ofString ")"] ++
    fixed ["        headers[\"Content-Length\"] = str(len(body_data.encode(\"utf-8\")))"]

/-- The line that hands the body to the request. -/
def bodyArgument : Text :=
  fixed ["                content=body_data.encode(\"utf-8\") if body_data is not None else None,"]

/-- The text of a unit. -/
def ofContext (c : Context) : Text :=
  opening c ++ fixed introduction ++ ambient ++ hintTable c.hints ++ fixed helpers ++
    c.bindings.flatMap bindingLine ++ line [] ++
    line [Text.ofString "    api_path = ", c.pathExpression] ++ queryPart c.query ++
    fixed headers ++ (if c.sendsBody then bodyLines (c.bodyIdentifier.getD []) else []) ++
    fixed requestStart ++ line [Text.ofString "                ", c.method.quoted, [.char ',']] ++
    fixed requestTarget ++ (if c.sendsBody then bodyArgument else []) ++ fixed ending

/-- The text of the unit of an operation's tool (`render`). -/
def ofOperation (op : Operation) : Except Fault Text :=
  (Context.ofOperation op).map ofContext

end Toolsmith.Source
