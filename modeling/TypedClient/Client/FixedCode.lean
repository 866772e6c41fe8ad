import TypedClient.Api.Verb

/-!
# The code that every package has

Some files of the package depend on the schema only through the names in them: the module of common
code, which sends the requests, the module of the client, and the package's own module. Their code is
kept here line by line. `commonCode` has one decorator for every verb.
-/

namespace TypedClient.Client

open Api

/-- The imports, the log and the type of what decorators are put on. -/
def commonHeader : List String :=
  ["import inspect",
   "import logging",
   "from enum import Enum",
   "from functools import wraps",
   "from typing import Any, Callable, Dict, List, Optional, TypeVar",
   "from urllib.parse import quote",
   "",
   "from aiohttp import ClientError, ClientSession, ClientTimeout",
   "from pydantic import BaseModel",
   "",
   "logger = logging.getLogger(__name__)",
   "",
   "DecoratedCallable = TypeVar(\"DecoratedCallable\", bound=Callable[..., Any])"]

/-- The error of a request. -/
def requestError : List String :=
  ["class SendRequestError(Exception):",
   "    def __init__(self, message, path, status_code, response_data=None):",
   "        self.message = message",
   "        self.path = path",
   "        self.status_code = status_code",
   "        self.response_data = response_data",
   "        super().__init__(f\"[\x7bstatus_code\x7d] \x7bpath\x7d: \x7bmessage\x7d\")"]

/-- The client that sends requests over HTTP and repeats those that fail on the way. -/
def httpClient : List String :=
  ["class AiohttpClient:",
   "    \"\"\"HTTP клиент на базе aiohttp\"\"\"",
   "",
   "    def __init__(self):",
   "        self._session: Optional[ClientSession] = None",
   "        self._api_url: Optional[str] = None",
   "        self._headers: Dict[str, str] = \x7b\x7d",
   "        self._timeout: int = 30",
   "        self._retries: int = 3",
   "",
   "    def initialize(",
   "        self,",
   "        api_url: str,",
   "        headers: Dict[str, str] = None,",
   "        timeout: int = 30,",
   "        retries: int = 3,",
   "    ) -> \"AiohttpClient\":",
   "        \"\"\"Инициализация клиента с настройками\"\"\"",
   "        self._api_url = str(api_url).rstrip(\"/\")",
   "        self._headers = dict(headers or \x7b\x7d)",
   "        self._timeout = int(timeout) if timeout else 30",
   "        self._retries = int(retries) if retries else 3",
   "        return self",
   "",
   "    async def _ensure_session(self) -> ClientSession:",
   "        if self._session is None or self._session.closed:",
   "            self._session = ClientSession(",
   "                timeout=ClientTimeout(total=self._timeout),",
   "                headers=self._headers.copy(),",
   "            )",
   "        return self._session",
   "",
   "    async def send_request(",
   "        self,",
   "        method: str,",
   "        path: str,",
   "        params: Optional[List[tuple]] = None,",
   "        json_body: Any = None,",
   "        headers: Dict[str, str] = None,",
   "    ) -> Any:",
   "        if not self._api_url:",
   "            raise SendRequestError(\"API URL is empty\", path=path, status_code=400)",
   "",
   "        full_url = f\"\x7bself._api_url\x7d/\x7bpath.lstrip('/')\x7d\"",
   "        session = await self._ensure_session()",
   "        last_error = None",
   "",
   "        for attempt in range(self._retries):",
   "            try:",
   "                logger.debug(f\"Making \x7bmethod\x7d request to \x7bfull_url\x7d\")",
   "                async with session.request(",
   "                    method,",
   "                    full_url,",
   "                    params=params,",
   "                    json=json_body,",
   "                    headers=headers,",
   "                ) as response:",
   "                    if response.status >= 400:",
   "                        raise SendRequestError(",
   "                            response.reason,",
   "                            path=path,",
   "                            status_code=response.status,",
   "                            response_data=await response.text(),",
   "                        )",
   "                    if response.content_length == 0 or response.status == 204:",
   "                        return None",
   "                    return await response.json(content_type=None)",
   "            except ClientError as exc:",
   "                logger.debug(f\"Attempt \x7battempt + 1\x7d failed: \x7bexc\x7d\")",
   "                last_error = exc",
   "",
   "        raise SendRequestError(str(last_error), path=path, status_code=500)",
   "",
   "    async def close(self):",
   "        \"\"\"Закрытие клиента и освобождение ресурсов\"\"\"",
   "        if self._session and not self._session.closed:",
   "            await self._session.close()",
   "",
   "    async def __aenter__(self):",
   "        return self",
   "",
   "    async def __aexit__(self, exc_type, exc_val, exc_tb):",
   "        await self.close()"]

/-- The class that the interface derives from. -/
def interfaceBase : List String :=
  ["class ApiInterface:",
   "    \"\"\"База сгенерированного интерфейса\"\"\"",
   "",
   "    def __init__(self, client: AiohttpClient):",
   "        self.client = client"]

/-- The function that turns a value into what is sent. -/
def valueSerializer : List String :=
  ["def serialize_value(value: Any) -> Any:",
   "    if isinstance(value, BaseModel):",
   "        return value.model_dump(mode=\"json\", by_alias=True, exclude_none=True)",
   "    if isinstance(value, Enum):",
   "        return value.value",
   "    if isinstance(value, (list, tuple)):",
   "        return [serialize_value(item) for item in value]",
   "    return value"]

/-- The function that turns the value of a query parameter into a list of what is sent. -/
def queryPairs : List String :=
  ["def query_pairs(value: Any) -> List[Any]:",
   "    value = serialize_value(value)",
   "    values = value if isinstance(value, list) else [value]",
   "    return [str(v).lower() if isinstance(v, bool) else v for v in values]"]

/-- The function that takes header lines apart. -/
def headerParser : List String :=
  ["def parse_headers(raw_headers: List[str]) -> Dict[str, str]:",
   "    headers = \x7b\x7d",
   "    for raw_header in raw_headers:",
   "        name, _, value = raw_header.partition(\":\")",
   "        headers[name.strip()] = value.strip()",
   "    return headers"]

/-- The decorator that gives a method headers. -/
def headersDecorator : List String :=
  ["def headers(*raw_headers: str) -> Callable[[DecoratedCallable], DecoratedCallable]:",
   "    \"\"\"Статические заголовки метода в формате Name: value\"\"\"",
   "",
   "    def decorator(func: DecoratedCallable) -> DecoratedCallable:",
   "        func._static_headers = list(raw_headers)",
   "        return func",
   "",
   "    return decorator"]

/-- The decorator that makes a request out of a method. -/
def methodDecorator : List String :=
  ["def http_method(",
   "    method: str,",
   "    path: str,",
   "    path_params: Dict[str, str] = None,",
   "    query: Dict[str, str] = None,",
   "    body: Optional[str] = None,",
   "    response_model=None,",
   "    many: bool = False,",
   ") -> Callable[[DecoratedCallable], DecoratedCallable]:",
   "    \"\"\"Базовый декоратор для HTTP методов\"\"\"",
   "",
   "    def decorator(func: DecoratedCallable) -> DecoratedCallable:",
   "        signature = inspect.signature(func)",
   "        static_headers = parse_headers(getattr(func, \"_static_headers\", []))",
   "",
   "        @wraps(func)",
   "        async def wrapper(self, *args, **kwargs):",
   "            bound_args = signature.bind(self, *args, **kwargs)",
   "            bound_args.apply_defaults()",
   "            arguments = bound_args.arguments",
   "",
   "            formatted_path = path",
   "            for name, wire_name in (path_params or \x7b\x7d).items():",
   "                value = serialize_value(arguments[name])",
   "                formatted_path = formatted_path.replace(",
   "                    \"\x7b\" + wire_name + \"\x7d\", quote(str(value), safe=\"\")",
   "                )",
   "",
   "            params = []",
   "            for name, wire_name in (query or \x7b\x7d).items():",
   "                if arguments[name] is not None:",
   "                    params.extend((wire_name, v) for v in query_pairs(arguments[name]))",
   "",
   "            raw = await self.client.send_request(",
   "                method,",
   "                formatted_path,",
   "                params=params or None,",
   "                json_body=serialize_value(arguments[body]) if body else None,",
   "                headers=static_headers or None,",
   "            )",
   "",
   "            if response_model is None:",
   "                return None",
   "            if many:",
   "                return [response_model.model_validate(item) for item in raw or []]",
   "            return response_model.model_validate(raw)",
   "",
   "        wrapper._http_method = method",
   "        wrapper._http_path = path",
   "        wrapper._response_model = response_model",
   "        return wrapper",
   "",
   "    return decorator"]

/-- The decorator of a verb. -/
def verbDecorator (v : Verb) : List String :=
  ["def " ++ v.decorator ++ "(path: str, **kwargs) -> Callable[[DecoratedCallable], DecoratedCallable]:",
   "    return http_method(\"" ++ v.name ++ "\", path, **kwargs)"]

/-- Lines as one text. -/
def joinLines (lines : List String) : String := "\n".intercalate lines

/-- The module of common code: its definitions with two empty lines between them. -/
def commonCode : String :=
  "\n\n\n".intercalate
    (([commonHeader, requestError, httpClient, interfaceBase, valueSerializer, queryPairs, headerParser,
        headersDecorator, methodDecorator] ++ Verb.all.map verbDecorator).map joinLines) ++ "\n"

/-- The module of the client, which holds the interface under a name of its own. -/
def clientCode (interface module : String) : String :=
  joinLines
    ["from simple_singleton import Singleton",
     "",
     "from .common import AiohttpClient",
     "from .interface import " ++ interface,
     "",
     "",
     "class ApiClient(AiohttpClient, metaclass=Singleton):",
     "    def __init__(self) -> None:",
     "        super().__init__()",
     "        self." ++ module ++ " = " ++ interface ++ "(self)",
     ""]

/-- The package's own module. -/
def packageCode (interface : String) : String :=
  joinLines
    ["from .client import ApiClient",
     "from .interface import " ++ interface,
     "from . import enums, models",
     "",
     "__all__ = [\"ApiClient\", \"" ++ interface ++ "\", \"enums\", \"models\"]",
     ""]

end TypedClient.Client
