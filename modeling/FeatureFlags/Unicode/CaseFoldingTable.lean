/-!
# Case folding

The characters that differ only in case in version 16.0. An entry `c:d,e` says that `c`, `d` and `e`
fold to one character, so that a match which ignores case takes each of them for `c`. Only foldings
of one character to one character are listed.
-/

namespace FeatureFlags.Unicode

/-- Each character that has case variants, with its variants. -/
def caseFoldingTable : String :=
  "41:61 42:62 43:63 44:64 45:65 46:66 47:67 48:68 49:69 4a:6a 4b:6b,212a 4c:6c 4d:6d 4e:6e
  4f:6f 50:70 51:71 52:72 53:73,17f 54:74 55:75 56:76 57:77 58:78 59:79 5a:7a 61:41 62:42
  63:43 64:44 65:45 66:46 67:47 68:48 69:49 6a:4a 6b:4b,212a 6c:4c 6d:4d 6e:4e 6f:4f 70:50
  71:51 72:52 73:53,17f 74:54 75:55 76:56 77:57 78:58 79:59 7a:5a b5:39c,3bc c0:e0 c1:e1 c2:e2
  c3:e3 c4:e4 c5:e5,212b c6:e6 c7:e7 c8:e8 c9:e9 ca:ea cb:eb cc:ec cd:ed ce:ee cf:ef d0:f0
  d1:f1 d2:f2 d3:f3 d4:f4 d5:f5 d6:f6 d8:f8 d9:f9 da:fa db:fb dc:fc dd:fd de:fe df:1e9e e0:c0
  e1:c1 e2:c2 e3:c3 e4:c4 e5:c5,212b e6:c6 e7:c7 e8:c8 e9:c9 ea:ca eb:cb ec:cc ed:cd ee:ce
  ef:cf f0:d0 f1:d1 f2:d2 f3:d3 f4:d4 f5:d5 f6:d6 f8:d8 f9:d9 fa:da fb:db fc:dc fd:dd fe:de
  ff:178 100:101 101:100 102:103 103:102 104:105 105:104 106:107 107:106 108:109 109:108
  10a:10b 10b:10a 10c:10d 10d:10c 10e:10f 10f:10e 110:111 111:110 112:113 113:112 114:115
  115:114 116:117 117:116 118:119 119:118 11a:11b 11b:11a 11c:11d 11d:11c 11e:11f 11f:11e
  120:121 121:120 122:123 123:122 124:125 125:124 126:127 127:126 128:129 129:128 12a:12b
  12b:12a 12c:12d 12d:12c 12e:12f 12f:12e 132:133 133:132 134:135 135:134 136:137 137:136
  139:13a 13a:139 13b:13c 13c:13b 13d:13e 13e:13d 13f:140 140:13f 141:142 142:141 143:144
  144:143 145:146 146:145 147:148 148:147 14a:14b 14b:14a 14c:14d 14d:14c 14e:14f 14f:14e
  150:151 151:150 152:153 153:152 154:155 155:154 156:157 157:156 158:159 159:158 15a:15b
  15b:15a 15c:15d 15d:15c 15e:15f 15f:15e 160:161 161:160 162:163 163:162 164:165 165:164
  166:167 167:166 168:169 169:168 16a:16b 16b:16a 16c:16d 16d:16c 16e:16f 16f:16e 170:171
  171:170 172:173 173:172 174:175 175:174 176:177 177:176 178:ff 179:17a 17a:179 17b:17c
  17c:17b 17d:17e 17e:17d 17f:53,73 180:243 181:253 182:183 183:182 184:185 185:184 186:254
  187:188 188:187 189:256 18a:257 18b:18c 18c:18b 18e:1dd 18f:259 190:25b 191:192 192:191
  193:260 194:263 195:1f6 196:269 197:268 198:199 199:198 19a:23d 19b:a7dc 19c:26f 19d:272
  19e:220 19f:275 1a0:1a1 1a1:1a0 1a2:1a3 1a3:1a2 1a4:1a5 1a5:1a4 1a6:280 1a7:1a8 1a8:1a7
  1a9:283 1ac:1ad 1ad:1ac 1ae:288 1af:1b0 1b0:1af 1b1:28a 1b2:28b 1b3:1b4 1b4:1b3 1b5:1b6
  1b6:1b5 1b7:292 1b8:1b9 1b9:1b8 1bc:1bd 1bd:1bc 1bf:1f7 1c4:1c5,1c6 1c5:1c4,1c6 1c6:1c4,1c5
  1c7:1c8,1c9 1c8:1c7,1c9 1c9:1c7,1c8 1ca:1cb,1cc 1cb:1ca,1cc 1cc:1ca,1cb 1cd:1ce 1ce:1cd
  1cf:1d0 1d0:1cf 1d1:1d2 1d2:1d1 1d3:1d4 1d4:1d3 1d5:1d6 1d6:1d5 1d7:1d8 1d8:1d7 1d9:1da
  1da:1d9 1db:1dc 1dc:1db 1dd:18e 1de:1df 1df:1de 1e0:1e1 1e1:1e0 1e2:1e3 1e3:1e2 1e4:1e5
  1e5:1e4 1e6:1e7 1e7:1e6 1e8:1e9 1e9:1e8 1ea:1eb 1eb:1ea 1ec:1ed 1ed:1ec 1ee:1ef 1ef:1ee
  1f1:1f2,1f3 1f2:1f1,1f3 1f3:1f1,1f2 1f4:1f5 1f5:1f4 1f6:195 1f7:1bf 1f8:1f9 1f9:1f8 1fa:1fb
  1fb:1fa 1fc:1fd 1fd:1fc 1fe:1ff 1ff:1fe 200:201 201:200 202:203 203:202 204:205 205:204
  206:207 207:206 208:209 209:208 20a:20b 20b:20a 20c:20d 20d:20c 20e:20f 20f:20e 210:211
  211:210 212:213 213:212 214:215 215:214 216:217 217:216 218:219 219:218 21a:21b 21b:21a
  21c:21d 21d:21c 21e:21f 21f:21e 220:19e 222:223 223:222 224:225 225:224 226:227 227:226
  228:229 229:228 22a:22b 22b:22a 22c:22d 22d:22c 22e:22f 22f:22e 230:231 231:230 232:233
  233:232 23a:2c65 23b:23c 23c:23b 23d:19a 23e:2c66 23f:2c7e 240:2c7f 241:242 242:241 243:180
  244:289 245:28c 246:247 247:246 248:249 249:248 24a:24b 24b:24a 24c:24d 24d:24c 24e:24f
  24f:24e 250:2c6f 251:2c6d 252:2c70 253:181 254:186 256:189 257:18a 259:18f 25b:190 25c:a7ab
  260:193 261:a7ac 263:194 264:a7cb 265:a78d 266:a7aa 268:197 269:196 26a:a7ae 26b:2c62
  26c:a7ad 26f:19c 271:2c6e 272:19d 275:19f 27d:2c64 280:1a6 282:a7c5 283:1a9 287:a7b1 288:1ae
  289:244 28a:1b1 28b:1b2 28c:245 292:1b7 29d:a7b2 29e:a7b0 345:399,3b9,1fbe 370:371 371:370
  372:373 373:372 376:377 377:376 37b:3fd 37c:3fe 37d:3ff 37f:3f3 386:3ac 388:3ad 389:3ae
  38a:3af 38c:3cc 38e:3cd 38f:3ce 390:1fd3 391:3b1 392:3b2,3d0 393:3b3 394:3b4 395:3b5,3f5
  396:3b6 397:3b7 398:3b8,3d1,3f4 399:345,3b9,1fbe 39a:3ba,3f0 39b:3bb 39c:b5,3bc 39d:3bd
  39e:3be 39f:3bf 3a0:3c0,3d6 3a1:3c1,3f1 3a3:3c2,3c3 3a4:3c4 3a5:3c5 3a6:3c6,3d5 3a7:3c7
  3a8:3c8 3a9:3c9,2126 3aa:3ca 3ab:3cb 3ac:386 3ad:388 3ae:389 3af:38a 3b0:1fe3 3b1:391
  3b2:392,3d0 3b3:393 3b4:394 3b5:395,3f5 3b6:396 3b7:397 3b8:398,3d1,3f4 3b9:345,399,1fbe
  3ba:39a,3f0 3bb:39b 3bc:b5,39c 3bd:39d 3be:39e 3bf:39f 3c0:3a0,3d6 3c1:3a1,3f1 3c2:3a3,3c3
  3c3:3a3,3c2 3c4:3a4 3c5:3a5 3c6:3a6,3d5 3c7:3a7 3c8:3a8 3c9:3a9,2126 3ca:3aa 3cb:3ab 3cc:38c
  3cd:38e 3ce:38f 3cf:3d7 3d0:392,3b2 3d1:398,3b8,3f4 3d5:3a6,3c6 3d6:3a0,3c0 3d7:3cf 3d8:3d9
  3d9:3d8 3da:3db 3db:3da 3dc:3dd 3dd:3dc 3de:3df 3df:3de 3e0:3e1 3e1:3e0 3e2:3e3 3e3:3e2
  3e4:3e5 3e5:3e4 3e6:3e7 3e7:3e6 3e8:3e9 3e9:3e8 3ea:3eb 3eb:3ea 3ec:3ed 3ed:3ec 3ee:3ef
  3ef:3ee 3f0:39a,3ba 3f1:3a1,3c1 3f2:3f9 3f3:37f 3f4:398,3b8,3d1 3f5:395,3b5 3f7:3f8 3f8:3f7
  3f9:3f2 3fa:3fb 3fb:3fa 3fd:37b 3fe:37c 3ff:37d 400:450 401:451 402:452 403:453 404:454
  405:455 406:456 407:457 408:458 409:459 40a:45a 40b:45b 40c:45c 40d:45d 40e:45e 40f:45f
  410:430 411:431 412:432,1c80 413:433 414:434,1c81 415:435 416:436 417:437 418:438 419:439
  41a:43a 41b:43b 41c:43c 41d:43d 41e:43e,1c82 41f:43f 420:440 421:441,1c83 422:442,1c84,1c85
  423:443 424:444 425:445 426:446 427:447 428:448 429:449 42a:44a,1c86 42b:44b 42c:44c 42d:44d
  42e:44e 42f:44f 430:410 431:411 432:412,1c80 433:413 434:414,1c81 435:415 436:416 437:417
  438:418 439:419 43a:41a 43b:41b 43c:41c 43d:41d 43e:41e,1c82 43f:41f 440:420 441:421,1c83
  442:422,1c84,1c85 443:423 444:424 445:425 446:426 447:427 448:428 449:429 44a:42a,1c86
  44b:42b 44c:42c 44d:42d 44e:42e 44f:42f 450:400 451:401 452:402 453:403 454:404 455:405
  456:406 457:407 458:408 459:409 45a:40a 45b:40b 45c:40c 45d:40d 45e:40e 45f:40f 460:461
  461:460 462:463,1c87 463:462,1c87 464:465 465:464 466:467 467:466 468:469 469:468 46a:46b
  46b:46a 46c:46d 46d:46c 46e:46f 46f:46e 470:471 471:470 472:473 473:472 474:475 475:474
  476:477 477:476 478:479 479:478 47a:47b 47b:47a 47c:47d 47d:47c 47e:47f 47f:47e 480:481
  481:480 48a:48b 48b:48a 48c:48d 48d:48c 48e:48f 48f:48e 490:491 491:490 492:493 493:492
  494:495 495:494 496:497 497:496 498:499 499:498 49a:49b 49b:49a 49c:49d 49d:49c 49e:49f
  49f:49e 4a0:4a1 4a1:4a0 4a2:4a3 4a3:4a2 4a4:4a5 4a5:4a4 4a6:4a7 4a7:4a6 4a8:4a9 4a9:4a8
  4aa:4ab 4ab:4aa 4ac:4ad 4ad:4ac 4ae:4af 4af:4ae 4b0:4b1 4b1:4b0 4b2:4b3 4b3:4b2 4b4:4b5
  4b5:4b4 4b6:4b7 4b7:4b6 4b8:4b9 4b9:4b8 4ba:4bb 4bb:4ba 4bc:4bd 4bd:4bc 4be:4bf 4bf:4be
  4c0:4cf 4c1:4c2 4c2:4c1 4c3:4c4 4c4:4c3 4c5:4c6 4c6:4c5 4c7:4c8 4c8:4c7 4c9:4ca 4ca:4c9
  4cb:4cc 4cc:4cb 4cd:4ce 4ce:4cd 4cf:4c0 4d0:4d1 4d1:4d0 4d2:4d3 4d3:4d2 4d4:4d5 4d5:4d4
  4d6:4d7 4d7:4d6 4d8:4d9 4d9:4d8 4da:4db 4db:4da 4dc:4dd 4dd:4dc 4de:4df 4df:4de 4e0:4e1
  4e1:4e0 4e2:4e3 4e3:4e2 4e4:4e5 4e5:4e4 4e6:4e7 4e7:4e6 4e8:4e9 4e9:4e8 4ea:4eb 4eb:4ea
  4ec:4ed 4ed:4ec 4ee:4ef 4ef:4ee 4f0:4f1 4f1:4f0 4f2:4f3 4f3:4f2 4f4:4f5 4f5:4f4 4f6:4f7
  4f7:4f6 4f8:4f9 4f9:4f8 4fa:4fb 4fb:4fa 4fc:4fd 4fd:4fc 4fe:4ff 4ff:4fe 500:501 501:500
  502:503 503:502 504:505 505:504 506:507 507:506 508:509 509:508 50a:50b 50b:50a 50c:50d
  50d:50c 50e:50f 50f:50e 510:511 511:510 512:513 513:512 514:515 515:514 516:517 517:516
  518:519 519:518 51a:51b 51b:51a 51c:51d 51d:51c 51e:51f 51f:51e 520:521 521:520 522:523
  523:522 524:525 525:524 526:527 527:526 528:529 529:528 52a:52b 52b:52a 52c:52d 52d:52c
  52e:52f 52f:52e 531:561 532:562 533:563 534:564 535:565 536:566 537:567 538:568 539:569
  53a:56a 53b:56b 53c:56c 53d:56d 53e:56e 53f:56f 540:570 541:571 542:572 543:573 544:574
  545:575 546:576 547:577 548:578 549:579 54a:57a 54b:57b 54c:57c 54d:57d 54e:57e 54f:57f
  550:580 551:581 552:582 553:583 554:584 555:585 556:586 561:531 562:532 563:533 564:534
  565:535 566:536 567:537 568:538 569:539 56a:53a 56b:53b 56c:53c 56d:53d 56e:53e 56f:53f
  570:540 571:541 572:542 573:543 574:544 575:545 576:546 577:547 578:548 579:549 57a:54a
  57b:54b 57c:54c 57d:54d 57e:54e 57f:54f 580:550 581:551 582:552 583:553 584:554 585:555
  586:556 10a0:2d00 10a1:2d01 10a2:2d02 10a3:2d03 10a4:2d04 10a5:2d05 10a6:2d06 10a7:2d07
  10a8:2d08 10a9:2d09 10aa:2d0a 10ab:2d0b 10ac:2d0c 10ad:2d0d 10ae:2d0e 10af:2d0f 10b0:2d10
  10b1:2d11 10b2:2d12 10b3:2d13 10b4:2d14 10b5:2d15 10b6:2d16 10b7:2d17 10b8:2d18 10b9:2d19
  10ba:2d1a 10bb:2d1b 10bc:2d1c 10bd:2d1d 10be:2d1e 10bf:2d1f 10c0:2d20 10c1:2d21 10c2:2d22
  10c3:2d23 10c4:2d24 10c5:2d25 10c7:2d27 10cd:2d2d 10d0:1c90 10d1:1c91 10d2:1c92 10d3:1c93
  10d4:1c94 10d5:1c95 10d6:1c96 10d7:1c97 10d8:1c98 10d9:1c99 10da:1c9a 10db:1c9b 10dc:1c9c
  10dd:1c9d 10de:1c9e 10df:1c9f 10e0:1ca0 10e1:1ca1 10e2:1ca2 10e3:1ca3 10e4:1ca4 10e5:1ca5
  10e6:1ca6 10e7:1ca7 10e8:1ca8 10e9:1ca9 10ea:1caa 10eb:1cab 10ec:1cac 10ed:1cad 10ee:1cae
  10ef:1caf 10f0:1cb0 10f1:1cb1 10f2:1cb2 10f3:1cb3 10f4:1cb4 10f5:1cb5 10f6:1cb6 10f7:1cb7
  10f8:1cb8 10f9:1cb9 10fa:1cba 10fd:1cbd 10fe:1cbe 10ff:1cbf 13a0:ab70 13a1:ab71 13a2:ab72
  13a3:ab73 13a4:ab74 13a5:ab75 13a6:ab76 13a7:ab77 13a8:ab78 13a9:ab79 13aa:ab7a 13ab:ab7b
  13ac:ab7c 13ad:ab7d 13ae:ab7e 13af:ab7f 13b0:ab80 13b1:ab81 13b2:ab82 13b3:ab83 13b4:ab84
  13b5:ab85 13b6:ab86 13b7:ab87 13b8:ab88 13b9:ab89 13ba:ab8a 13bb:ab8b 13bc:ab8c 13bd:ab8d
  13be:ab8e 13bf:ab8f 13c0:ab90 13c1:ab91 13c2:ab92 13c3:ab93 13c4:ab94 13c5:ab95 13c6:ab96
  13c7:ab97 13c8:ab98 13c9:ab99 13ca:ab9a 13cb:ab9b 13cc:ab9c 13cd:ab9d 13ce:ab9e 13cf:ab9f
  13d0:aba0 13d1:aba1 13d2:aba2 13d3:aba3 13d4:aba4 13d5:aba5 13d6:aba6 13d7:aba7 13d8:aba8
  13d9:aba9 13da:abaa 13db:abab 13dc:abac 13dd:abad 13de:abae 13df:abaf 13e0:abb0 13e1:abb1
  13e2:abb2 13e3:abb3 13e4:abb4 13e5:abb5 13e6:abb6 13e7:abb7 13e8:abb8 13e9:abb9 13ea:abba
  13eb:abbb 13ec:abbc 13ed:abbd 13ee:abbe 13ef:abbf 13f0:13f8 13f1:13f9 13f2:13fa 13f3:13fb
  13f4:13fc 13f5:13fd 13f8:13f0 13f9:13f1 13fa:13f2 13fb:13f3 13fc:13f4 13fd:13f5 1c80:412,432
  1c81:414,434 1c82:41e,43e 1c83:421,441 1c84:422,442,1c85 1c85:422,442,1c84 1c86:42a,44a
  1c87:462,463 1c88:a64a,a64b 1c89:1c8a 1c8a:1c89 1c90:10d0 1c91:10d1 1c92:10d2 1c93:10d3
  1c94:10d4 1c95:10d5 1c96:10d6 1c97:10d7 1c98:10d8 1c99:10d9 1c9a:10da 1c9b:10db 1c9c:10dc
  1c9d:10dd 1c9e:10de 1c9f:10df 1ca0:10e0 1ca1:10e1 1ca2:10e2 1ca3:10e3 1ca4:10e4 1ca5:10e5
  1ca6:10e6 1ca7:10e7 1ca8:10e8 1ca9:10e9 1caa:10ea 1cab:10eb 1cac:10ec 1cad:10ed 1cae:10ee
  1caf:10ef 1cb0:10f0 1cb1:10f1 1cb2:10f2 1cb3:10f3 1cb4:10f4 1cb5:10f5 1cb6:10f6 1cb7:10f7
  1cb8:10f8 1cb9:10f9 1cba:10fa 1cbd:10fd 1cbe:10fe 1cbf:10ff 1d79:a77d 1d7d:2c63 1d8e:a7c6
  1e00:1e01 1e01:1e00 1e02:1e03 1e03:1e02 1e04:1e05 1e05:1e04 1e06:1e07 1e07:1e06 1e08:1e09
  1e09:1e08 1e0a:1e0b 1e0b:1e0a 1e0c:1e0d 1e0d:1e0c 1e0e:1e0f 1e0f:1e0e 1e10:1e11 1e11:1e10
  1e12:1e13 1e13:1e12 1e14:1e15 1e15:1e14 1e16:1e17 1e17:1e16 1e18:1e19 1e19:1e18 1e1a:1e1b
  1e1b:1e1a 1e1c:1e1d 1e1d:1e1c 1e1e:1e1f 1e1f:1e1e 1e20:1e21 1e21:1e20 1e22:1e23 1e23:1e22
  1e24:1e25 1e25:1e24 1e26:1e27 1e27:1e26 1e28:1e29 1e29:1e28 1e2a:1e2b 1e2b:1e2a 1e2c:1e2d
  1e2d:1e2c 1e2e:1e2f 1e2f:1e2e 1e30:1e31 1e31:1e30 1e32:1e33 1e33:1e32 1e34:1e35 1e35:1e34
  1e36:1e37 1e37:1e36 1e38:1e39 1e39:1e38 1e3a:1e3b 1e3b:1e3a 1e3c:1e3d 1e3d:1e3c 1e3e:1e3f
  1e3f:1e3e 1e40:1e41 1e41:1e40 1e42:1e43 1e43:1e42 1e44:1e45 1e45:1e44 1e46:1e47 1e47:1e46
  1e48:1e49 1e49:1e48 1e4a:1e4b 1e4b:1e4a 1e4c:1e4d 1e4d:1e4c 1e4e:1e4f 1e4f:1e4e 1e50:1e51
  1e51:1e50 1e52:1e53 1e53:1e52 1e54:1e55 1e55:1e54 1e56:1e57 1e57:1e56 1e58:1e59 1e59:1e58
  1e5a:1e5b 1e5b:1e5a 1e5c:1e5d 1e5d:1e5c 1e5e:1e5f 1e5f:1e5e 1e60:1e61,1e9b 1e61:1e60,1e9b
  1e62:1e63 1e63:1e62 1e64:1e65 1e65:1e64 1e66:1e67 1e67:1e66 1e68:1e69 1e69:1e68 1e6a:1e6b
  1e6b:1e6a 1e6c:1e6d 1e6d:1e6c 1e6e:1e6f 1e6f:1e6e 1e70:1e71 1e71:1e70 1e72:1e73 1e73:1e72
  1e74:1e75 1e75:1e74 1e76:1e77 1e77:1e76 1e78:1e79 1e79:1e78 1e7a:1e7b 1e7b:1e7a 1e7c:1e7d
  1e7d:1e7c 1e7e:1e7f 1e7f:1e7e 1e80:1e81 1e81:1e80 1e82:1e83 1e83:1e82 1e84:1e85 1e85:1e84
  1e86:1e87 1e87:1e86 1e88:1e89 1e89:1e88 1e8a:1e8b 1e8b:1e8a 1e8c:1e8d 1e8d:1e8c 1e8e:1e8f
  1e8f:1e8e 1e90:1e91 1e91:1e90 1e92:1e93 1e93:1e92 1e94:1e95 1e95:1e94 1e9b:1e60,1e61 1e9e:df
  1ea0:1ea1 1ea1:1ea0 1ea2:1ea3 1ea3:1ea2 1ea4:1ea5 1ea5:1ea4 1ea6:1ea7 1ea7:1ea6 1ea8:1ea9
  1ea9:1ea8 1eaa:1eab 1eab:1eaa 1eac:1ead 1ead:1eac 1eae:1eaf 1eaf:1eae 1eb0:1eb1 1eb1:1eb0
  1eb2:1eb3 1eb3:1eb2 1eb4:1eb5 1eb5:1eb4 1eb6:1eb7 1eb7:1eb6 1eb8:1eb9 1eb9:1eb8 1eba:1ebb
  1ebb:1eba 1ebc:1ebd 1ebd:1ebc 1ebe:1ebf 1ebf:1ebe 1ec0:1ec1 1ec1:1ec0 1ec2:1ec3 1ec3:1ec2
  1ec4:1ec5 1ec5:1ec4 1ec6:1ec7 1ec7:1ec6 1ec8:1ec9 1ec9:1ec8 1eca:1ecb 1ecb:1eca 1ecc:1ecd
  1ecd:1ecc 1ece:1ecf 1ecf:1ece 1ed0:1ed1 1ed1:1ed0 1ed2:1ed3 1ed3:1ed2 1ed4:1ed5 1ed5:1ed4
  1ed6:1ed7 1ed7:1ed6 1ed8:1ed9 1ed9:1ed8 1eda:1edb 1edb:1eda 1edc:1edd 1edd:1edc 1ede:1edf
  1edf:1ede 1ee0:1ee1 1ee1:1ee0 1ee2:1ee3 1ee3:1ee2 1ee4:1ee5 1ee5:1ee4 1ee6:1ee7 1ee7:1ee6
  1ee8:1ee9 1ee9:1ee8 1eea:1eeb 1eeb:1eea 1eec:1eed 1eed:1eec 1eee:1eef 1eef:1eee 1ef0:1ef1
  1ef1:1ef0 1ef2:1ef3 1ef3:1ef2 1ef4:1ef5 1ef5:1ef4 1ef6:1ef7 1ef7:1ef6 1ef8:1ef9 1ef9:1ef8
  1efa:1efb 1efb:1efa 1efc:1efd 1efd:1efc 1efe:1eff 1eff:1efe 1f00:1f08 1f01:1f09 1f02:1f0a
  1f03:1f0b 1f04:1f0c 1f05:1f0d 1f06:1f0e 1f07:1f0f 1f08:1f00 1f09:1f01 1f0a:1f02 1f0b:1f03
  1f0c:1f04 1f0d:1f05 1f0e:1f06 1f0f:1f07 1f10:1f18 1f11:1f19 1f12:1f1a 1f13:1f1b 1f14:1f1c
  1f15:1f1d 1f18:1f10 1f19:1f11 1f1a:1f12 1f1b:1f13 1f1c:1f14 1f1d:1f15 1f20:1f28 1f21:1f29
  1f22:1f2a 1f23:1f2b 1f24:1f2c 1f25:1f2d 1f26:1f2e 1f27:1f2f 1f28:1f20 1f29:1f21 1f2a:1f22
  1f2b:1f23 1f2c:1f24 1f2d:1f25 1f2e:1f26 1f2f:1f27 1f30:1f38 1f31:1f39 1f32:1f3a 1f33:1f3b
  1f34:1f3c 1f35:1f3d 1f36:1f3e 1f37:1f3f 1f38:1f30 1f39:1f31 1f3a:1f32 1f3b:1f33 1f3c:1f34
  1f3d:1f35 1f3e:1f36 1f3f:1f37 1f40:1f48 1f41:1f49 1f42:1f4a 1f43:1f4b 1f44:1f4c 1f45:1f4d
  1f48:1f40 1f49:1f41 1f4a:1f42 1f4b:1f43 1f4c:1f44 1f4d:1f45 1f51:1f59 1f53:1f5b 1f55:1f5d
  1f57:1f5f 1f59:1f51 1f5b:1f53 1f5d:1f55 1f5f:1f57 1f60:1f68 1f61:1f69 1f62:1f6a 1f63:1f6b
  1f64:1f6c 1f65:1f6d 1f66:1f6e 1f67:1f6f 1f68:1f60 1f69:1f61 1f6a:1f62 1f6b:1f63 1f6c:1f64
  1f6d:1f65 1f6e:1f66 1f6f:1f67 1f70:1fba 1f71:1fbb 1f72:1fc8 1f73:1fc9 1f74:1fca 1f75:1fcb
  1f76:1fda 1f77:1fdb 1f78:1ff8 1f79:1ff9 1f7a:1fea 1f7b:1feb 1f7c:1ffa 1f7d:1ffb 1f80:1f88
  1f81:1f89 1f82:1f8a 1f83:1f8b 1f84:1f8c 1f85:1f8d 1f86:1f8e 1f87:1f8f 1f88:1f80 1f89:1f81
  1f8a:1f82 1f8b:1f83 1f8c:1f84 1f8d:1f85 1f8e:1f86 1f8f:1f87 1f90:1f98 1f91:1f99 1f92:1f9a
  1f93:1f9b 1f94:1f9c 1f95:1f9d 1f96:1f9e 1f97:1f9f 1f98:1f90 1f99:1f91 1f9a:1f92 1f9b:1f93
  1f9c:1f94 1f9d:1f95 1f9e:1f96 1f9f:1f97 1fa0:1fa8 1fa1:1fa9 1fa2:1faa 1fa3:1fab 1fa4:1fac
  1fa5:1fad 1fa6:1fae 1fa7:1faf 1fa8:1fa0 1fa9:1fa1 1faa:1fa2 1fab:1fa3 1fac:1fa4 1fad:1fa5
  1fae:1fa6 1faf:1fa7 1fb0:1fb8 1fb1:1fb9 1fb3:1fbc 1fb8:1fb0 1fb9:1fb1 1fba:1f70 1fbb:1f71
  1fbc:1fb3 1fbe:345,399,3b9 1fc3:1fcc 1fc8:1f72 1fc9:1f73 1fca:1f74 1fcb:1f75 1fcc:1fc3
  1fd0:1fd8 1fd1:1fd9 1fd3:390 1fd8:1fd0 1fd9:1fd1 1fda:1f76 1fdb:1f77 1fe0:1fe8 1fe1:1fe9
  1fe3:3b0 1fe5:1fec 1fe8:1fe0 1fe9:1fe1 1fea:1f7a 1feb:1f7b 1fec:1fe5 1ff3:1ffc 1ff8:1f78
  1ff9:1f79 1ffa:1f7c 1ffb:1f7d 1ffc:1ff3 2126:3a9,3c9 212a:4b,6b 212b:c5,e5 2132:214e
  214e:2132 2160:2170 2161:2171 2162:2172 2163:2173 2164:2174 2165:2175 2166:2176 2167:2177
  2168:2178 2169:2179 216a:217a 216b:217b 216c:217c 216d:217d 216e:217e 216f:217f 2170:2160
  2171:2161 2172:2162 2173:2163 2174:2164 2175:2165 2176:2166 2177:2167 2178:2168 2179:2169
  217a:216a 217b:216b 217c:216c 217d:216d 217e:216e 217f:216f 2183:2184 2184:2183 24b6:24d0
  24b7:24d1 24b8:24d2 24b9:24d3 24ba:24d4 24bb:24d5 24bc:24d6 24bd:24d7 24be:24d8 24bf:24d9
  24c0:24da 24c1:24db 24c2:24dc 24c3:24dd 24c4:24de 24c5:24df 24c6:24e0 24c7:24e1 24c8:24e2
  24c9:24e3 24ca:24e4 24cb:24e5 24cc:24e6 24cd:24e7 24ce:24e8 24cf:24e9 24d0:24b6 24d1:24b7
  24d2:24b8 24d3:24b9 24d4:24ba 24d5:24bb 24d6:24bc 24d7:24bd 24d8:24be 24d9:24bf 24da:24c0
  24db:24c1 24dc:24c2 24dd:24c3 24de:24c4 24df:24c5 24e0:24c6 24e1:24c7 24e2:24c8 24e3:24c9
  24e4:24ca 24e5:24cb 24e6:24cc 24e7:24cd 24e8:24ce 24e9:24cf 2c00:2c30 2c01:2c31 2c02:2c32
  2c03:2c33 2c04:2c34 2c05:2c35 2c06:2c36 2c07:2c37 2c08:2c38 2c09:2c39 2c0a:2c3a 2c0b:2c3b
  2c0c:2c3c 2c0d:2c3d 2c0e:2c3e 2c0f:2c3f 2c10:2c40 2c11:2c41 2c12:2c42 2c13:2c43 2c14:2c44
  2c15:2c45 2c16:2c46 2c17:2c47 2c18:2c48 2c19:2c49 2c1a:2c4a 2c1b:2c4b 2c1c:2c4c 2c1d:2c4d
  2c1e:2c4e 2c1f:2c4f 2c20:2c50 2c21:2c51 2c22:2c52 2c23:2c53 2c24:2c54 2c25:2c55 2c26:2c56
  2c27:2c57 2c28:2c58 2c29:2c59 2c2a:2c5a 2c2b:2c5b 2c2c:2c5c 2c2d:2c5d 2c2e:2c5e 2c2f:2c5f
  2c30:2c00 2c31:2c01 2c32:2c02 2c33:2c03 2c34:2c04 2c35:2c05 2c36:2c06 2c37:2c07 2c38:2c08
  2c39:2c09 2c3a:2c0a 2c3b:2c0b 2c3c:2c0c 2c3d:2c0d 2c3e:2c0e 2c3f:2c0f 2c40:2c10 2c41:2c11
  2c42:2c12 2c43:2c13 2c44:2c14 2c45:2c15 2c46:2c16 2c47:2c17 2c48:2c18 2c49:2c19 2c4a:2c1a
  2c4b:2c1b 2c4c:2c1c 2c4d:2c1d 2c4e:2c1e 2c4f:2c1f 2c50:2c20 2c51:2c21 2c52:2c22 2c53:2c23
  2c54:2c24 2c55:2c25 2c56:2c26 2c57:2c27 2c58:2c28 2c59:2c29 2c5a:2c2a 2c5b:2c2b 2c5c:2c2c
  2c5d:2c2d 2c5e:2c2e 2c5f:2c2f 2c60:2c61 2c61:2c60 2c62:26b 2c63:1d7d 2c64:27d 2c65:23a
  2c66:23e 2c67:2c68 2c68:2c67 2c69:2c6a 2c6a:2c69 2c6b:2c6c 2c6c:2c6b 2c6d:251 2c6e:271
  2c6f:250 2c70:252 2c72:2c73 2c73:2c72 2c75:2c76 2c76:2c75 2c7e:23f 2c7f:240 2c80:2c81
  2c81:2c80 2c82:2c83 2c83:2c82 2c84:2c85 2c85:2c84 2c86:2c87 2c87:2c86 2c88:2c89 2c89:2c88
  2c8a:2c8b 2c8b:2c8a 2c8c:2c8d 2c8d:2c8c 2c8e:2c8f 2c8f:2c8e 2c90:2c91 2c91:2c90 2c92:2c93
  2c93:2c92 2c94:2c95 2c95:2c94 2c96:2c97 2c97:2c96 2c98:2c99 2c99:2c98 2c9a:2c9b 2c9b:2c9a
  2c9c:2c9d 2c9d:2c9c 2c9e:2c9f 2c9f:2c9e 2ca0:2ca1 2ca1:2ca0 2ca2:2ca3 2ca3:2ca2 2ca4:2ca5
  2ca5:2ca4 2ca6:2ca7 2ca7:2ca6 2ca8:2ca9 2ca9:2ca8 2caa:2cab 2cab:2caa 2cac:2cad 2cad:2cac
  2cae:2caf 2caf:2cae 2cb0:2cb1 2cb1:2cb0 2cb2:2cb3 2cb3:2cb2 2cb4:2cb5 2cb5:2cb4 2cb6:2cb7
  2cb7:2cb6 2cb8:2cb9 2cb9:2cb8 2cba:2cbb 2cbb:2cba 2cbc:2cbd 2cbd:2cbc 2cbe:2cbf 2cbf:2cbe
  2cc0:2cc1 2cc1:2cc0 2cc2:2cc3 2cc3:2cc2 2cc4:2cc5 2cc5:2cc4 2cc6:2cc7 2cc7:2cc6 2cc8:2cc9
  2cc9:2cc8 2cca:2ccb 2ccb:2cca 2ccc:2ccd 2ccd:2ccc 2cce:2ccf 2ccf:2cce 2cd0:2cd1 2cd1:2cd0
  2cd2:2cd3 2cd3:2cd2 2cd4:2cd5 2cd5:2cd4 2cd6:2cd7 2cd7:2cd6 2cd8:2cd9 2cd9:2cd8 2cda:2cdb
  2cdb:2cda 2cdc:2cdd 2cdd:2cdc 2cde:2cdf 2cdf:2cde 2ce0:2ce1 2ce1:2ce0 2ce2:2ce3 2ce3:2ce2
  2ceb:2cec 2cec:2ceb 2ced:2cee 2cee:2ced 2cf2:2cf3 2cf3:2cf2 2d00:10a0 2d01:10a1 2d02:10a2
  2d03:10a3 2d04:10a4 2d05:10a5 2d06:10a6 2d07:10a7 2d08:10a8 2d09:10a9 2d0a:10aa 2d0b:10ab
  2d0c:10ac 2d0d:10ad 2d0e:10ae 2d0f:10af 2d10:10b0 2d11:10b1 2d12:10b2 2d13:10b3 2d14:10b4
  2d15:10b5 2d16:10b6 2d17:10b7 2d18:10b8 2d19:10b9 2d1a:10ba 2d1b:10bb 2d1c:10bc 2d1d:10bd
  2d1e:10be 2d1f:10bf 2d20:10c0 2d21:10c1 2d22:10c2 2d23:10c3 2d24:10c4 2d25:10c5 2d27:10c7
  2d2d:10cd a640:a641 a641:a640 a642:a643 a643:a642 a644:a645 a645:a644 a646:a647 a647:a646
  a648:a649 a649:a648 a64a:1c88,a64b a64b:1c88,a64a a64c:a64d a64d:a64c a64e:a64f a64f:a64e
  a650:a651 a651:a650 a652:a653 a653:a652 a654:a655 a655:a654 a656:a657 a657:a656 a658:a659
  a659:a658 a65a:a65b a65b:a65a a65c:a65d a65d:a65c a65e:a65f a65f:a65e a660:a661 a661:a660
  a662:a663 a663:a662 a664:a665 a665:a664 a666:a667 a667:a666 a668:a669 a669:a668 a66a:a66b
  a66b:a66a a66c:a66d a66d:a66c a680:a681 a681:a680 a682:a683 a683:a682 a684:a685 a685:a684
  a686:a687 a687:a686 a688:a689 a689:a688 a68a:a68b a68b:a68a a68c:a68d a68d:a68c a68e:a68f
  a68f:a68e a690:a691 a691:a690 a692:a693 a693:a692 a694:a695 a695:a694 a696:a697 a697:a696
  a698:a699 a699:a698 a69a:a69b a69b:a69a a722:a723 a723:a722 a724:a725 a725:a724 a726:a727
  a727:a726 a728:a729 a729:a728 a72a:a72b a72b:a72a a72c:a72d a72d:a72c a72e:a72f a72f:a72e
  a732:a733 a733:a732 a734:a735 a735:a734 a736:a737 a737:a736 a738:a739 a739:a738 a73a:a73b
  a73b:a73a a73c:a73d a73d:a73c a73e:a73f a73f:a73e a740:a741 a741:a740 a742:a743 a743:a742
  a744:a745 a745:a744 a746:a747 a747:a746 a748:a749 a749:a748 a74a:a74b a74b:a74a a74c:a74d
  a74d:a74c a74e:a74f a74f:a74e a750:a751 a751:a750 a752:a753 a753:a752 a754:a755 a755:a754
  a756:a757 a757:a756 a758:a759 a759:a758 a75a:a75b a75b:a75a a75c:a75d a75d:a75c a75e:a75f
  a75f:a75e a760:a761 a761:a760 a762:a763 a763:a762 a764:a765 a765:a764 a766:a767 a767:a766
  a768:a769 a769:a768 a76a:a76b a76b:a76a a76c:a76d a76d:a76c a76e:a76f a76f:a76e a779:a77a
  a77a:a779 a77b:a77c a77c:a77b a77d:1d79 a77e:a77f a77f:a77e a780:a781 a781:a780 a782:a783
  a783:a782 a784:a785 a785:a784 a786:a787 a787:a786 a78b:a78c a78c:a78b a78d:265 a790:a791
  a791:a790 a792:a793 a793:a792 a794:a7c4 a796:a797 a797:a796 a798:a799 a799:a798 a79a:a79b
  a79b:a79a a79c:a79d a79d:a79c a79e:a79f a79f:a79e a7a0:a7a1 a7a1:a7a0 a7a2:a7a3 a7a3:a7a2
  a7a4:a7a5 a7a5:a7a4 a7a6:a7a7 a7a7:a7a6 a7a8:a7a9 a7a9:a7a8 a7aa:266 a7ab:25c a7ac:261
  a7ad:26c a7ae:26a a7b0:29e a7b1:287 a7b2:29d a7b3:ab53 a7b4:a7b5 a7b5:a7b4 a7b6:a7b7
  a7b7:a7b6 a7b8:a7b9 a7b9:a7b8 a7ba:a7bb a7bb:a7ba a7bc:a7bd a7bd:a7bc a7be:a7bf a7bf:a7be
  a7c0:a7c1 a7c1:a7c0 a7c2:a7c3 a7c3:a7c2 a7c4:a794 a7c5:282 a7c6:1d8e a7c7:a7c8 a7c8:a7c7
  a7c9:a7ca a7ca:a7c9 a7cb:264 a7cc:a7cd a7cd:a7cc a7d0:a7d1 a7d1:a7d0 a7d6:a7d7 a7d7:a7d6
  a7d8:a7d9 a7d9:a7d8 a7da:a7db a7db:a7da a7dc:19b a7f5:a7f6 a7f6:a7f5 ab53:a7b3 ab70:13a0
  ab71:13a1 ab72:13a2 ab73:13a3 ab74:13a4 ab75:13a5 ab76:13a6 ab77:13a7 ab78:13a8 ab79:13a9
  ab7a:13aa ab7b:13ab ab7c:13ac ab7d:13ad ab7e:13ae ab7f:13af ab80:13b0 ab81:13b1 ab82:13b2
  ab83:13b3 ab84:13b4 ab85:13b5 ab86:13b6 ab87:13b7 ab88:13b8 ab89:13b9 ab8a:13ba ab8b:13bb
  ab8c:13bc ab8d:13bd ab8e:13be ab8f:13bf ab90:13c0 ab91:13c1 ab92:13c2 ab93:13c3 ab94:13c4
  ab95:13c5 ab96:13c6 ab97:13c7 ab98:13c8 ab99:13c9 ab9a:13ca ab9b:13cb ab9c:13cc ab9d:13cd
  ab9e:13ce ab9f:13cf aba0:13d0 aba1:13d1 aba2:13d2 aba3:13d3 aba4:13d4 aba5:13d5 aba6:13d6
  aba7:13d7 aba8:13d8 aba9:13d9 abaa:13da abab:13db abac:13dc abad:13dd abae:13de abaf:13df
  abb0:13e0 abb1:13e1 abb2:13e2 abb3:13e3 abb4:13e4 abb5:13e5 abb6:13e6 abb7:13e7 abb8:13e8
  abb9:13e9 abba:13ea abbb:13eb abbc:13ec abbd:13ed abbe:13ee abbf:13ef fb05:fb06 fb06:fb05
  ff21:ff41 ff22:ff42 ff23:ff43 ff24:ff44 ff25:ff45 ff26:ff46 ff27:ff47 ff28:ff48 ff29:ff49
  ff2a:ff4a ff2b:ff4b ff2c:ff4c ff2d:ff4d ff2e:ff4e ff2f:ff4f ff30:ff50 ff31:ff51 ff32:ff52
  ff33:ff53 ff34:ff54 ff35:ff55 ff36:ff56 ff37:ff57 ff38:ff58 ff39:ff59 ff3a:ff5a ff41:ff21
  ff42:ff22 ff43:ff23 ff44:ff24 ff45:ff25 ff46:ff26 ff47:ff27 ff48:ff28 ff49:ff29 ff4a:ff2a
  ff4b:ff2b ff4c:ff2c ff4d:ff2d ff4e:ff2e ff4f:ff2f ff50:ff30 ff51:ff31 ff52:ff32 ff53:ff33
  ff54:ff34 ff55:ff35 ff56:ff36 ff57:ff37 ff58:ff38 ff59:ff39 ff5a:ff3a 10400:10428
  10401:10429 10402:1042a 10403:1042b 10404:1042c 10405:1042d 10406:1042e 10407:1042f
  10408:10430 10409:10431 1040a:10432 1040b:10433 1040c:10434 1040d:10435 1040e:10436
  1040f:10437 10410:10438 10411:10439 10412:1043a 10413:1043b 10414:1043c 10415:1043d
  10416:1043e 10417:1043f 10418:10440 10419:10441 1041a:10442 1041b:10443 1041c:10444
  1041d:10445 1041e:10446 1041f:10447 10420:10448 10421:10449 10422:1044a 10423:1044b
  10424:1044c 10425:1044d 10426:1044e 10427:1044f 10428:10400 10429:10401 1042a:10402
  1042b:10403 1042c:10404 1042d:10405 1042e:10406 1042f:10407 10430:10408 10431:10409
  10432:1040a 10433:1040b 10434:1040c 10435:1040d 10436:1040e 10437:1040f 10438:10410
  10439:10411 1043a:10412 1043b:10413 1043c:10414 1043d:10415 1043e:10416 1043f:10417
  10440:10418 10441:10419 10442:1041a 10443:1041b 10444:1041c 10445:1041d 10446:1041e
  10447:1041f 10448:10420 10449:10421 1044a:10422 1044b:10423 1044c:10424 1044d:10425
  1044e:10426 1044f:10427 104b0:104d8 104b1:104d9 104b2:104da 104b3:104db 104b4:104dc
  104b5:104dd 104b6:104de 104b7:104df 104b8:104e0 104b9:104e1 104ba:104e2 104bb:104e3
  104bc:104e4 104bd:104e5 104be:104e6 104bf:104e7 104c0:104e8 104c1:104e9 104c2:104ea
  104c3:104eb 104c4:104ec 104c5:104ed 104c6:104ee 104c7:104ef 104c8:104f0 104c9:104f1
  104ca:104f2 104cb:104f3 104cc:104f4 104cd:104f5 104ce:104f6 104cf:104f7 104d0:104f8
  104d1:104f9 104d2:104fa 104d3:104fb 104d8:104b0 104d9:104b1 104da:104b2 104db:104b3
  104dc:104b4 104dd:104b5 104de:104b6 104df:104b7 104e0:104b8 104e1:104b9 104e2:104ba
  104e3:104bb 104e4:104bc 104e5:104bd 104e6:104be 104e7:104bf 104e8:104c0 104e9:104c1
  104ea:104c2 104eb:104c3 104ec:104c4 104ed:104c5 104ee:104c6 104ef:104c7 104f0:104c8
  104f1:104c9 104f2:104ca 104f3:104cb 104f4:104cc 104f5:104cd 104f6:104ce 104f7:104cf
  104f8:104d0 104f9:104d1 104fa:104d2 104fb:104d3 10570:10597 10571:10598 10572:10599
  10573:1059a 10574:1059b 10575:1059c 10576:1059d 10577:1059e 10578:1059f 10579:105a0
  1057a:105a1 1057c:105a3 1057d:105a4 1057e:105a5 1057f:105a6 10580:105a7 10581:105a8
  10582:105a9 10583:105aa 10584:105ab 10585:105ac 10586:105ad 10587:105ae 10588:105af
  10589:105b0 1058a:105b1 1058c:105b3 1058d:105b4 1058e:105b5 1058f:105b6 10590:105b7
  10591:105b8 10592:105b9 10594:105bb 10595:105bc 10597:10570 10598:10571 10599:10572
  1059a:10573 1059b:10574 1059c:10575 1059d:10576 1059e:10577 1059f:10578 105a0:10579
  105a1:1057a 105a3:1057c 105a4:1057d 105a5:1057e 105a6:1057f 105a7:10580 105a8:10581
  105a9:10582 105aa:10583 105ab:10584 105ac:10585 105ad:10586 105ae:10587 105af:10588
  105b0:10589 105b1:1058a 105b3:1058c 105b4:1058d 105b5:1058e 105b6:1058f 105b7:10590
  105b8:10591 105b9:10592 105bb:10594 105bc:10595 10c80:10cc0 10c81:10cc1 10c82:10cc2
  10c83:10cc3 10c84:10cc4 10c85:10cc5 10c86:10cc6 10c87:10cc7 10c88:10cc8 10c89:10cc9
  10c8a:10cca 10c8b:10ccb 10c8c:10ccc 10c8d:10ccd 10c8e:10cce 10c8f:10ccf 10c90:10cd0
  10c91:10cd1 10c92:10cd2 10c93:10cd3 10c94:10cd4 10c95:10cd5 10c96:10cd6 10c97:10cd7
  10c98:10cd8 10c99:10cd9 10c9a:10cda 10c9b:10cdb 10c9c:10cdc 10c9d:10cdd 10c9e:10cde
  10c9f:10cdf 10ca0:10ce0 10ca1:10ce1 10ca2:10ce2 10ca3:10ce3 10ca4:10ce4 10ca5:10ce5
  10ca6:10ce6 10ca7:10ce7 10ca8:10ce8 10ca9:10ce9 10caa:10cea 10cab:10ceb 10cac:10cec
  10cad:10ced 10cae:10cee 10caf:10cef 10cb0:10cf0 10cb1:10cf1 10cb2:10cf2 10cc0:10c80
  10cc1:10c81 10cc2:10c82 10cc3:10c83 10cc4:10c84 10cc5:10c85 10cc6:10c86 10cc7:10c87
  10cc8:10c88 10cc9:10c89 10cca:10c8a 10ccb:10c8b 10ccc:10c8c 10ccd:10c8d 10cce:10c8e
  10ccf:10c8f 10cd0:10c90 10cd1:10c91 10cd2:10c92 10cd3:10c93 10cd4:10c94 10cd5:10c95
  10cd6:10c96 10cd7:10c97 10cd8:10c98 10cd9:10c99 10cda:10c9a 10cdb:10c9b 10cdc:10c9c
  10cdd:10c9d 10cde:10c9e 10cdf:10c9f 10ce0:10ca0 10ce1:10ca1 10ce2:10ca2 10ce3:10ca3
  10ce4:10ca4 10ce5:10ca5 10ce6:10ca6 10ce7:10ca7 10ce8:10ca8 10ce9:10ca9 10cea:10caa
  10ceb:10cab 10cec:10cac 10ced:10cad 10cee:10cae 10cef:10caf 10cf0:10cb0 10cf1:10cb1
  10cf2:10cb2 10d50:10d70 10d51:10d71 10d52:10d72 10d53:10d73 10d54:10d74 10d55:10d75
  10d56:10d76 10d57:10d77 10d58:10d78 10d59:10d79 10d5a:10d7a 10d5b:10d7b 10d5c:10d7c
  10d5d:10d7d 10d5e:10d7e 10d5f:10d7f 10d60:10d80 10d61:10d81 10d62:10d82 10d63:10d83
  10d64:10d84 10d65:10d85 10d70:10d50 10d71:10d51 10d72:10d52 10d73:10d53 10d74:10d54
  10d75:10d55 10d76:10d56 10d77:10d57 10d78:10d58 10d79:10d59 10d7a:10d5a 10d7b:10d5b
  10d7c:10d5c 10d7d:10d5d 10d7e:10d5e 10d7f:10d5f 10d80:10d60 10d81:10d61 10d82:10d62
  10d83:10d63 10d84:10d64 10d85:10d65 118a0:118c0 118a1:118c1 118a2:118c2 118a3:118c3
  118a4:118c4 118a5:118c5 118a6:118c6 118a7:118c7 118a8:118c8 118a9:118c9 118aa:118ca
  118ab:118cb 118ac:118cc 118ad:118cd 118ae:118ce 118af:118cf 118b0:118d0 118b1:118d1
  118b2:118d2 118b3:118d3 118b4:118d4 118b5:118d5 118b6:118d6 118b7:118d7 118b8:118d8
  118b9:118d9 118ba:118da 118bb:118db 118bc:118dc 118bd:118dd 118be:118de 118bf:118df
  118c0:118a0 118c1:118a1 118c2:118a2 118c3:118a3 118c4:118a4 118c5:118a5 118c6:118a6
  118c7:118a7 118c8:118a8 118c9:118a9 118ca:118aa 118cb:118ab 118cc:118ac 118cd:118ad
  118ce:118ae 118cf:118af 118d0:118b0 118d1:118b1 118d2:118b2 118d3:118b3 118d4:118b4
  118d5:118b5 118d6:118b6 118d7:118b7 118d8:118b8 118d9:118b9 118da:118ba 118db:118bb
  118dc:118bc 118dd:118bd 118de:118be 118df:118bf 16e40:16e60 16e41:16e61 16e42:16e62
  16e43:16e63 16e44:16e64 16e45:16e65 16e46:16e66 16e47:16e67 16e48:16e68 16e49:16e69
  16e4a:16e6a 16e4b:16e6b 16e4c:16e6c 16e4d:16e6d 16e4e:16e6e 16e4f:16e6f 16e50:16e70
  16e51:16e71 16e52:16e72 16e53:16e73 16e54:16e74 16e55:16e75 16e56:16e76 16e57:16e77
  16e58:16e78 16e59:16e79 16e5a:16e7a 16e5b:16e7b 16e5c:16e7c 16e5d:16e7d 16e5e:16e7e
  16e5f:16e7f 16e60:16e40 16e61:16e41 16e62:16e42 16e63:16e43 16e64:16e44 16e65:16e45
  16e66:16e46 16e67:16e47 16e68:16e48 16e69:16e49 16e6a:16e4a 16e6b:16e4b 16e6c:16e4c
  16e6d:16e4d 16e6e:16e4e 16e6f:16e4f 16e70:16e50 16e71:16e51 16e72:16e52 16e73:16e53
  16e74:16e54 16e75:16e55 16e76:16e56 16e77:16e57 16e78:16e58 16e79:16e59 16e7a:16e5a
  16e7b:16e5b 16e7c:16e5c 16e7d:16e5d 16e7e:16e5e 16e7f:16e5f 1e900:1e922 1e901:1e923
  1e902:1e924 1e903:1e925 1e904:1e926 1e905:1e927 1e906:1e928 1e907:1e929 1e908:1e92a
  1e909:1e92b 1e90a:1e92c 1e90b:1e92d 1e90c:1e92e 1e90d:1e92f 1e90e:1e930 1e90f:1e931
  1e910:1e932 1e911:1e933 1e912:1e934 1e913:1e935 1e914:1e936 1e915:1e937 1e916:1e938
  1e917:1e939 1e918:1e93a 1e919:1e93b 1e91a:1e93c 1e91b:1e93d 1e91c:1e93e 1e91d:1e93f
  1e91e:1e940 1e91f:1e941 1e920:1e942 1e921:1e943 1e922:1e900 1e923:1e901 1e924:1e902
  1e925:1e903 1e926:1e904 1e927:1e905 1e928:1e906 1e929:1e907 1e92a:1e908 1e92b:1e909
  1e92c:1e90a 1e92d:1e90b 1e92e:1e90c 1e92f:1e90d 1e930:1e90e 1e931:1e90f 1e932:1e910
  1e933:1e911 1e934:1e912 1e935:1e913 1e936:1e914 1e937:1e915 1e938:1e916 1e939:1e917
  1e93a:1e918 1e93b:1e919 1e93c:1e91a 1e93d:1e91b 1e93e:1e91c 1e93f:1e91d 1e940:1e91e
  1e941:1e91f 1e942:1e920 1e943:1e921"

end FeatureFlags.Unicode
