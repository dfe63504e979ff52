/-!
# Reversi.Web.Page

The page that people play on.

* `Page.lines`: the document, line by line.
* `Page.text`: the document; every line ends with a line feed.
-/

namespace Reversi
namespace Page

def lines : List String := [
  "<!DOCTYPE html>",
  "<html lang=\"en\">",
  "  <head>",
  "    <meta charset=\"utf-8\" />",
  "    <meta name=\"viewport\" content=\"width=device-width, initial-scale=1\" />",
  "    <title>Othello</title>",
  "    <style>",
  "      body \x7b font-family: sans-serif; background: #1f2933; color: #f5f7fa; text-align: center; \x7d",
  "      #board \x7b display: inline-block; margin-top: 1rem; background: #2f7d32; padding: 4px; \x7d",
  "      .row \x7b display: flex; \x7d",
  "      .cell \x7b width: 48px; height: 48px; border: 1px solid #1b5e20; display: flex;",
  "              align-items: center; justify-content: center; cursor: pointer; \x7d",
  "      .cell.legal \x7b background: #388e3c; \x7d",
  "      .piece \x7b width: 38px; height: 38px; border-radius: 50%; \x7d",
  "      .piece.black \x7b background: #111; \x7d",
  "      .piece.white \x7b background: #fafafa; \x7d",
  "      #error \x7b color: #ff8a80; min-height: 1.2em; \x7d",
  "    </style>",
  "  </head>",
  "  <body>",
  "    <h1>Othello</h1>",
  "    <p>Room <span id=\"room-id\"></span> &middot; <span id=\"game-mode\"></span>",
  "       &middot; you are <span id=\"seat\"></span></p>",
  "    <p>Status: <span id=\"status-message\">joining...</span> &middot; Turn: <span id=\"turn\">None</span>",
  "       &middot; <span id=\"score\"></span></p>",
  "    <p id=\"note\"></p>",
  "    <p id=\"error\"></p>",
  "    <div id=\"board\"></div>",
  "    <script>",
  "      const params = new URLSearchParams(window.location.search);",
  "      const roomId = parseInt(params.get('room') || '1', 10);",
  "      const mode = params.get('mode') || 'pvp';",
  "      let playerId = null;",
  "",
  "      function errorText(data, fallback) \x7b",
  "        const detail = data && data.detail;",
  "        if (typeof detail === 'string') \x7b",
  "          return detail;",
  "        \x7d",
  "        return (detail && detail.message) || fallback;",
  "      \x7d",
  "",
  "      async function joinGame() \x7b",
  "        const response = await fetch(`/join?room=$\x7broomId\x7d&mode=$\x7bmode\x7d`, \x7b method: 'POST' \x7d);",
  "        const data = await response.json();",
  "        if (!response.ok) \x7b",
  "          document.getElementById('status-message').textContent = errorText(data, 'Join failed');",
  "          return;",
  "        \x7d",
  "        playerId = data.player_id;",
  "        document.getElementById('room-id').textContent = data.room_id;",
  "        document.getElementById('game-mode').textContent = data.mode;",
  "        document.getElementById('seat').textContent = data.seat;",
  "        pollState();",
  "      \x7d",
  "",
  "      async function makeMove(r, c) \x7b",
  "        const response = await fetch(`/move?room=$\x7broomId\x7d`, \x7b",
  "          method: 'POST',",
  "          headers: \x7b 'Content-Type': 'application/json' \x7d,",
  "          body: JSON.stringify(\x7b r, c, player: playerId \x7d)",
  "        \x7d);",
  "        const data = await response.json();",
  "        const error = document.getElementById('error');",
  "        if (response.ok) \x7b",
  "          error.textContent = '';",
  "          render(data.state);",
  "        \x7d else \x7b",
  "          error.textContent = errorText(data, 'Move rejected');",
  "        \x7d",
  "      \x7d",
  "",
  "      async function pollState() \x7b",
  "        try \x7b",
  "          const response = await fetch(`/state?room=$\x7broomId\x7d`);",
  "          if (response.ok) \x7b",
  "            render(await response.json());",
  "          \x7d",
  "        \x7d catch (err) \x7b",
  "          console.error('Failed to get state:', err);",
  "        \x7d",
  "        setTimeout(pollState, 1000);",
  "      \x7d",
  "",
  "      function render(state) \x7b",
  "        const legal = new Set(state.legal_moves.map(([r, c]) => `$\x7br\x7d,$\x7bc\x7d`));",
  "        const boardElement = document.getElementById('board');",
  "        boardElement.innerHTML = '';",
  "        state.board.forEach((row, r) => \x7b",
  "          const rowElement = document.createElement('div');",
  "          rowElement.className = 'row';",
  "          row.forEach((cell, c) => \x7b",
  "            const cellElement = document.createElement('div');",
  "            cellElement.className = legal.has(`$\x7br\x7d,$\x7bc\x7d`) ? 'cell legal' : 'cell';",
  "            cellElement.addEventListener('click', () => makeMove(r, c));",
  "            if (cell !== 0) \x7b",
  "              const piece = document.createElement('div');",
  "              piece.className = cell === 1 ? 'piece black' : 'piece white';",
  "              cellElement.appendChild(piece);",
  "            \x7d",
  "            rowElement.appendChild(cellElement);",
  "          \x7d);",
  "          boardElement.appendChild(rowElement);",
  "        \x7d);",
  "        document.getElementById('status-message').textContent = state.status;",
  "        document.getElementById('turn').textContent = ['None', 'Black', 'White'][state.turn];",
  "        document.getElementById('score').textContent =",
  "          `Black $\x7bstate.scores.black\x7d : $\x7bstate.scores.white\x7d White`;",
  "        document.getElementById('note').textContent = state.note || '';",
  "      \x7d",
  "",
  "      joinGame();",
  "    </script>",
  "  </body>",
  "</html>"]

def text : String := String.join (lines.map fun line => line ++ "\n")

end Page
end Reversi
