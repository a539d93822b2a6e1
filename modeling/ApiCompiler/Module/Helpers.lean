/-!
# Helpers of generated modules

The text that every generated module starts with: the checks of required arguments, the layers of
headers and queries, canonical order, and the transport that sends a request.
-/

namespace ApiCompiler.Module

/-- The lines of the helpers. -/
def helperLines : List String := [
  "import functools",
  "from typing import Any, Mapping",
  "",
  "import httpx",
  "",
  "",
  "class MissingParameter(ValueError):",
  "    \"\"\"Raised by a generated function when a required argument is absent.",
  "",
  "    Args:",
  "        parameter: The argument name the caller should have supplied.",
  "        value: The offending value (always ``None`` in practice).",
  "    \"\"\"",
  "",
  "    def __init__(self, parameter: str, value: Any = None):",
  "        super().__init__(f\"Missing required parameter: \x7bparameter\x7d. " ++
    "Value: \x7bvalue!r\x7d\")",
  "        self.parameter = parameter",
  "        self.value = value",
  "",
  "",
  "def require_parameter(arguments: Mapping[str, Any], name: str) -> Any:",
  "    \"\"\"Return ``arguments[name]``, raising :class:`MissingParameter` if unset.\"\"\"",
  "    value = arguments.get(name)",
  "    if value is None:",
  "        raise MissingParameter(name, value)",
  "    return value",
  "",
  "",
  "def clean_query(query: Mapping[str, Any]) -> dict[str, Any]:",
  "    \"\"\"Drop unset entries from a query mapping.",
  "",
  "    ``None`` values and empty lists/tuples are removed; falsy but defined",
  "    scalars (``0``, ``False``, ``\"\"``) are kept.",
  "",
  "    Example::",
  "",
  "        >>> clean_query(\x7b\"a\": None, \"b\": [], \"c\": 0, \"d\": False, \"e\": \"x\"\x7d)",
  "        \x7b'c': 0, 'd': False, 'e': 'x'\x7d",
  "    \"\"\"",
  "    return \x7b",
  "        key: value",
  "        for key, value in query.items()",
  "        if value is not None and not (isinstance(value, (list, tuple)) and not value)",
  "    \x7d",
  "",
  "",
  "def clean_headers(headers: Mapping[str, Any]) -> dict[str, Any]:",
  "    \"\"\"Drop ``None`` entries from a header mapping. Empty lists are kept.\"\"\"",
  "    return \x7bkey: value for key, value in headers.items() if value is not None\x7d",
  "",
  "",
  "def merge_headers(*layers: Mapping[str, Any]) -> dict[str, Any]:",
  "    \"\"\"Merge header mappings, later layers winning.",
  "",
  "    Header names are compared case-insensitively, and the winning layer's",
  "    spelling is kept.",
  "    \"\"\"",
  "    merged: dict[str, Any] = \x7b\x7d",
  "    for layer in layers:",
  "        for key, value in layer.items():",
  "            for existing in [k for k in merged if k.lower() == key.lower()]:",
  "                del merged[existing]",
  "            merged[key] = value",
  "    return merged",
  "",
  "",
  "def ordered_compare(a: Any, b: Any) -> int:",
  "    \"\"\"Three-way comparison giving ascending order: ``-1``, ``0`` or ``1``.\"\"\"",
  "    return (a > b) - (a < b)",
  "",
  "",
  "def sort_ordered(values: Any) -> Any:",
  "    \"\"\"Sort a multi-valued query argument into canonical ascending order.",
  "",
  "    Only lists, tuples and sets are sorted. A single value (a string",
  "    included) and ``None`` are returned unchanged.",
  "    \"\"\"",
  "    if not isinstance(values, (list, tuple, set, frozenset)):",
  "        return values",
  "    return sorted(values, key=functools.cmp_to_key(ordered_compare))",
  "",
  "",
  "async def send_request(request: Mapping[str, Any]) -> httpx.Response:",
  "    \"\"\"Issue one request described by a generated function.",
  "",
  "    ``base_url`` and the optional ``transport`` configure a short-lived",
  "    :class:`httpx.AsyncClient`; every other key is passed to",
  "    :meth:`httpx.AsyncClient.request` (``method``, ``url``, ``headers``,",
  "    ``params``, ``json``, ``timeout``, ...).",
  "",
  "    Returns:",
  "        The :class:`httpx.Response`.",
  "",
  "    Raises:",
  "        httpx.HTTPStatusError: For any status outside ``2xx``.",
  "        httpx.RequestError: For network failures, unchanged.",
  "    \"\"\"",
  "    options = dict(request)",
  "    base_url = options.pop(\"base_url\", \"\")",
  "    transport = options.pop(\"transport\", None)",
  "    async with httpx.AsyncClient(base_url=base_url, transport=transport) as client:",
  "        response = await client.request(**options)",
  "    response.raise_for_status()",
  "    return response"]

/-- The helpers as one text. -/
def helpers : String :=
  String.intercalate "\n" helperLines

end ApiCompiler.Module
